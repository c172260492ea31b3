import ReplicaAtlas.Member.Fault
import ReplicaAtlas.Member.Ownership

/-!
Surveys of member clusters: on which nodes the pods of a workload run. Every cluster is asked for its nodes
and then, node by node, for the pods there. A cluster that cannot list its nodes is reported as failed, a
node whose pods cannot be listed is left out, and neither touches the rest of the answer. A survey of
potential places asks for the nodes alone.
-/
namespace ReplicaAtlas

structure SurveyOptions where
  timeout : Duration
  clusterConcurrency : Nat
  nodeConcurrency : Nat
  /-- Pods have to live in the workload's namespace. -/
  strict : Bool
  deriving DecidableEq, Repr

def SurveyOptions.default : SurveyOptions := ⟨.ofSeconds 5, 8, 16, false⟩

structure Timed (α : Type) where
  delay : Duration
  answer : Except MemberFault α

structure Member where
  nodes : Timed (List Node)
  pods : String → Timed (List Pod)

inductive NodeStatus where
  | ready
  | notReady
  | unknown
  deriving DecidableEq, Repr

/-- What a node has, and what of it workloads may have; a quantity that cannot be read counts as zero. -/
structure NodeCapacity where
  cpuCapacity : Nat
  cpuAllocatable : Nat
  memoryCapacity : Nat
  memoryAllocatable : Nat
  podCapacity : Nat
  podAllocatable : Nat
  deriving DecidableEq, Repr

structure PodDetail where
  name : String
  space : String
  phase : String
  ip : String
  restarts : UInt32
  created : Option String
  labels : Table String

structure NodePlacement where
  node : String
  podCount : UInt32
  running : UInt32
  pending : UInt32
  failed : UInt32
  status : NodeStatus
  roles : List String
  address : String
  capacity : NodeCapacity
  pods : List PodDetail
  /-- The workload could run here, which says nothing about where it does run. -/
  potential : Bool

structure ClusterOutcome where
  cluster : String
  nodes : List NodePlacement
  failure : Option MemberFault

namespace Timed
variable {α : Type}

def now (answer : Except MemberFault α) : Timed α := ⟨⟨0⟩, answer⟩

def within (reply : Timed α) (operation : String) (timeout : Duration) : Except MemberFault α :=
  if reply.delay.milliseconds ≤ timeout.milliseconds then reply.answer
  else .error (.timeout operation timeout)

end Timed

namespace NodeStatus

def ofReadiness : Option String → NodeStatus
  | some "True" => .ready
  | some "False" => .notReady
  | _ => .unknown

def name : NodeStatus → String
  | .ready => "Ready"
  | .notReady => "NotReady"
  | .unknown => "Unknown"

end NodeStatus

namespace NodeCapacity

def quantity (quantities : Table String) (name : String) (read : String → Option Nat) : Nat :=
  ((quantities.get? name).bind read).getD 0

def of (node : Node) : NodeCapacity where
  cpuCapacity := quantity node.capacity "cpu" Quantity.cpuMillis?
  cpuAllocatable := quantity node.allocatable "cpu" Quantity.cpuMillis?
  memoryCapacity := quantity node.capacity "memory" Quantity.bytes?
  memoryAllocatable := quantity node.allocatable "memory" Quantity.bytes?
  podCapacity := quantity node.capacity "pods" Quantity.count?
  podAllocatable := quantity node.allocatable "pods" Quantity.count?

def toJson (c : NodeCapacity) : Json := .object [
  ("cpuCapacityMillis", .nat c.cpuCapacity), ("cpuAllocatableMillis", .nat c.cpuAllocatable),
  ("memoryCapacityBytes", .nat c.memoryCapacity), ("memoryAllocatableBytes", .nat c.memoryAllocatable),
  ("podCapacity", .nat c.podCapacity), ("podAllocatable", .nat c.podAllocatable)]

end NodeCapacity

namespace PodDetail

def of (pod : Pod) : PodDetail :=
  ⟨pod.header.name, pod.header.space, pod.phase, pod.ip, pod.restarts, pod.header.created, pod.header.labels⟩

def toJson (d : PodDetail) : Json := .object [
  ("name", .text d.name), ("namespace", .text d.space), ("phase", .text d.phase), ("podIp", .text d.ip),
  ("restartCount", .word d.restarts), ("createdAt", Json.option .text d.created),
  ("labels", Json.table .text d.labels)]

end PodDetail

namespace NodePlacement

/-- Counts are words of 32 bits, and what does not fit into one is cut off. -/
def inPhase (phase : String) (pods : List Pod) : UInt32 := (pods.countP (·.phase == phase)).toUInt32

def of (node : Node) (pods : List Pod) (potential : Bool) : NodePlacement where
  node := node.name
  podCount := pods.length.toUInt32
  running := inPhase "Running" pods
  pending := inPhase "Pending" pods
  failed := inPhase "Failed" pods
  status := .ofReadiness node.readyStatus?
  roles := node.roles
  address := node.internalAddress?.getD ""
  capacity := .of node
  pods := pods.map .of
  potential := potential

def toJson (p : NodePlacement) : Json := .object [
  ("nodeName", .text p.node), ("podCount", .word p.podCount), ("runningPods", .word p.running),
  ("pendingPods", .word p.pending), ("failedPods", .word p.failed), ("nodeStatus", .text p.status.name),
  ("nodeRoles", .texts p.roles), ("nodeIP", .text p.address), ("resources", p.capacity.toJson),
  ("podDetails", Json.list PodDetail.toJson p.pods), ("potential", .bool p.potential)]

end NodePlacement

namespace ClusterOutcome

def isFailed (outcome : ClusterOutcome) : Bool := outcome.failure.isSome

def toJson (o : ClusterOutcome) : Json := .object <|
  [("clusterName", .text o.cluster), ("nodes", Json.list NodePlacement.toJson o.nodes)] ++
  Json.optionalMember "error" (fun fault => .text fault.message) o.failure

end ClusterOutcome

structure Survey where
  options : SurveyOptions
  workload : Workload
  potential : Bool

namespace Survey

def nodes (survey : Survey) (member : Member) : Except MemberFault (List Node) :=
  member.nodes.within "list nodes" survey.options.timeout

def pods (survey : Survey) (member : Member) (node : Node) : Except MemberFault (List Pod) :=
  (member.pods node.name).within "list pods" survey.options.timeout

def owns (survey : Survey) (pod : Pod) : Bool :=
  (pod.ownership? survey.workload survey.options.strict).isSome

def placement? (survey : Survey) (member : Member) (node : Node) : Option NodePlacement :=
  match survey.pods member node with
  | .error _ => none
  | .ok pods =>
    let matched := pods.filter survey.owns
    if matched.isEmpty then none else some (.of node matched false)

def placements (survey : Survey) (member : Member) (nodes : List Node) : List NodePlacement :=
  if survey.potential then nodes.map (.of · [] true) else nodes.filterMap (survey.placement? member)

def outcome (survey : Survey) (members : Table Member) (cluster : String) : ClusterOutcome :=
  match members.get? cluster with
  | none => ⟨cluster, [], some (.noClient cluster)⟩
  | some member =>
    match survey.nodes member with
    | .error fault => ⟨cluster, [], some fault⟩
    | .ok nodes => ⟨cluster, survey.placements member nodes, none⟩

def outcomes (survey : Survey) (members : Table Member) (clusters : List String) : List ClusterOutcome :=
  clusters.map (survey.outcome members)

inductive Call where
  | nodes (cluster : String)
  | pods (cluster node : String)
  deriving DecidableEq, Repr

def callsTo (survey : Survey) (members : Table Member) (cluster : String) : List Call :=
  match members.get? cluster with
  | none => []
  | some member =>
    match survey.nodes member with
    | .error _ => [.nodes cluster]
    | .ok nodes =>
      .nodes cluster :: if survey.potential then [] else nodes.map fun node => .pods cluster node.name

def calls (survey : Survey) (members : Table Member) (clusters : List String) : List Call :=
  clusters.flatMap (survey.callsTo members)

end Survey

end ReplicaAtlas
