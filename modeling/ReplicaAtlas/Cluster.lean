import ReplicaAtlas.Json.Decode
import ReplicaAtlas.Json.Recorded

/-!
Member clusters as they are registered, with their labels, taints and capacity.
-/
namespace ReplicaAtlas

structure Taint where
  key : String
  value : String
  effect : String
  deriving DecidableEq, Repr

/-- Capacity in cores, bytes and pods; the fractions are percentages of it. -/
structure ClusterResources where
  cpuCapacity : UInt64
  cpuFraction : Float
  memoryCapacity : UInt64
  memoryFraction : Float
  podCapacity : UInt64
  allocatedPods : UInt64

structure NodeSummary where
  total : UInt32
  ready : UInt32
  deriving DecidableEq, Repr

structure Cluster where
  name : String
  labels : Table String
  ready : Bool
  version : String
  taints : List Taint
  resources : ClusterResources
  nodes : NodeSummary

namespace Taint

def layout : Layout Taint where
  blank := ⟨"", "", ""⟩
  fields := [
    .needed "key" Decoder.text fun v t => { t with key := v },
    .defaulted "value" Decoder.text fun v t => { t with value := v },
    .needed "effect" Decoder.text fun v t => { t with effect := v }]

def toJson (t : Taint) : Json := .object [
  ("key", .text t.key), ("value", .text t.value), ("effect", .text t.effect)]

end Taint

namespace ClusterResources

def none : ClusterResources := ⟨0, 0.0, 0, 0.0, 0, 0⟩

def layout : Layout ClusterResources where
  blank := none
  fields := [
    .defaulted "cpuCapacity" Decoder.wide fun v r => { r with cpuCapacity := v },
    .defaulted "cpuFraction" Decoder.float fun v r => { r with cpuFraction := v },
    .defaulted "memoryCapacity" Decoder.wide fun v r => { r with memoryCapacity := v },
    .defaulted "memoryFraction" Decoder.float fun v r => { r with memoryFraction := v },
    .defaulted "podCapacity" Decoder.wide fun v r => { r with podCapacity := v },
    .defaulted "allocatedPods" Decoder.wide fun v r => { r with allocatedPods := v }]

def toJson (r : ClusterResources) : Json := .object [
  ("cpuCapacity", .wide r.cpuCapacity), ("cpuFraction", .float r.cpuFraction),
  ("memoryCapacity", .wide r.memoryCapacity), ("memoryFraction", .float r.memoryFraction),
  ("podCapacity", .wide r.podCapacity), ("allocatedPods", .wide r.allocatedPods)]

def recorded (r : ClusterResources) : ClusterResources :=
  { r with cpuFraction := recordedFloat r.cpuFraction, memoryFraction := recordedFloat r.memoryFraction }

end ClusterResources

namespace NodeSummary

def layout : Layout NodeSummary where
  blank := ⟨0, 0⟩
  fields := [
    .defaulted "total" Decoder.word fun v s => { s with total := v },
    .defaulted "ready" Decoder.word fun v s => { s with ready := v }]

def toJson (s : NodeSummary) : Json := .object [("total", .word s.total), ("ready", .word s.ready)]

end NodeSummary

namespace Cluster

def layout : Layout Cluster where
  blank := ⟨"", .empty, false, "", [], .none, ⟨0, 0⟩⟩
  fields := [
    .needed "name" Decoder.text fun v c => { c with name := v },
    .defaulted "labels" (Decoder.table Decoder.text) fun v c => { c with labels := v },
    .defaulted "ready" Decoder.bool fun v c => { c with ready := v },
    .defaulted "kubernetesVersion" Decoder.text fun v c => { c with version := v },
    .defaulted "taints" (Decoder.list Taint.layout.decode) fun v c => { c with taints := v },
    .defaulted "resources" ClusterResources.layout.decode fun v c => { c with resources := v },
    .defaulted "nodeSummary" NodeSummary.layout.decode fun v c => { c with nodes := v }]

def toJson (c : Cluster) : Json := .object [
  ("name", .text c.name), ("labels", Json.table .text c.labels), ("ready", .bool c.ready),
  ("kubernetesVersion", .text c.version), ("taints", Json.list Taint.toJson c.taints),
  ("resources", c.resources.toJson), ("nodeSummary", c.nodes.toJson)]

def recorded (c : Cluster) : Cluster := { c with resources := c.resources.recorded }

end Cluster

end ReplicaAtlas
