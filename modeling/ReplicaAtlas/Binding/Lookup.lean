import ReplicaAtlas.Phase
import ReplicaAtlas.StatusCount

/-!
The binding of a workload: the first one that governs it, with how many do, what it plans for each of its
clusters and what those clusters told. One binding for a workload is the rule; further ones are counted.
-/
namespace ReplicaAtlas

structure Placement where
  cluster : String
  planned : UInt32
  actual : UInt32
  weight : Option UInt32
  reason : String
  deriving DecidableEq, Repr

structure BindingLookup where
  binding : Option Binding
  placements : List Placement
  report : PhaseReport
  matching : Nat

structure WorkloadSummary where
  workload : Workload
  planned : UInt32
  ready : UInt32
  deriving DecidableEq, Repr

namespace Placement

def toJson (p : Placement) : Json := .object <|
  [("clusterName", .text p.cluster), ("plannedReplicas", .word p.planned), ("actualReplicas", .word p.actual)] ++
  Json.optionalMember "weight" .word p.weight ++ [("reason", .text p.reason)]

end Placement

namespace Binding

def actualReplicas (b : Binding) (cluster : String) : UInt32 := StatusCount.replicas (b.payload? cluster)

def placement (b : Binding) (weights : Table UInt32) (target : Target) : Placement where
  cluster := target.cluster
  planned := target.replicas
  actual := b.actualReplicas target.cluster
  weight := weights.get? target.cluster
  reason := s!"{target.replicas} replicas assigned by the scheduling policy"

def placements (b : Binding) (weights : Table UInt32) : List Placement := b.targets.map (b.placement weights)

/-- The ready replicas of all reports, also of clusters that are no targets. -/
def readyReplicas (b : Binding) : UInt32 :=
  Replicas.sum (b.reports.map fun r => StatusCount.field r.payload "readyReplicas")

end Binding

def findBinding (bindings : List Binding) (w : Workload) : Option Binding × Nat :=
  let governing := bindings.filter (·.governs w)
  (governing.head?, governing.length)

def lookUp (bindings : List Binding) (w : Workload) (weights : Table UInt32) : BindingLookup :=
  match findBinding bindings w with
  | (none, _) => ⟨none, [], .unbound, 0⟩
  | (some b, matching) => ⟨some b, b.placements weights, b.phaseReport, matching⟩

namespace WorkloadSummary

def of (w : Workload) : Option Binding → WorkloadSummary
  | none => ⟨w, 0, 0⟩
  | some b => ⟨w, b.plannedReplicas, b.readyReplicas⟩

def toJson (s : WorkloadSummary) : Json := .object [
  ("name", .text s.workload.name), ("namespace", .text s.workload.space), ("kind", .text s.workload.kind),
  ("apiVersion", .text s.workload.apiVersion), ("replicas", .word s.planned), ("readyReplicas", .word s.ready)]

end WorkloadSummary

end ReplicaAtlas
