import ReplicaAtlas.Binding.Lookup

/-!
How workloads and their replicas are spread over clusters and namespaces: totals over a list of bindings,
a row for every cluster that is a target and one for every namespace that has a binding, in ascending order.
-/
namespace ReplicaAtlas

structure Tally where
  workloads : Nat
  planned : UInt32
  ready : UInt32
  deriving DecidableEq, Repr

structure Distribution where
  totals : Tally
  scheduled : Nat
  pending : Nat
  failed : Nat
  clusters : Table Tally
  spaces : Table Tally

namespace Tally

def zero : Tally := ⟨0, 0, 0⟩

def addWorkload (t : Tally) : Tally := { t with workloads := t.workloads + 1 }

def addReplicas (t : Tally) (planned ready : UInt32) : Tally :=
  { t with planned := Replicas.add t.planned planned, ready := Replicas.add t.ready ready }

def members (t : Tally) : List (String × Json) :=
  [("workloads", .nat t.workloads), ("plannedReplicas", .word t.planned), ("readyReplicas", .word t.ready)]

end Tally

namespace Distribution

def empty : Distribution := ⟨.zero, 0, 0, 0, .empty, .empty⟩

def update (rows : Table Tally) (name : String) (change : Tally → Tally) : Table Tally :=
  rows.insert name (change ((rows.get? name).getD .zero))

def addTarget (b : Binding) (d : Distribution) (target : Target) : Distribution :=
  let ready := b.actualReplicas target.cluster
  { d with
    totals := d.totals.addReplicas target.replicas ready
    clusters := update d.clusters target.cluster fun row => row.addWorkload.addReplicas target.replicas ready
    spaces := update d.spaces b.space (·.addReplicas target.replicas ready) }

def countPhase (d : Distribution) : Phase → Distribution
  | .scheduled => { d with scheduled := d.scheduled + 1 }
  | .pending => { d with pending := d.pending + 1 }
  | .failed => { d with failed := d.failed + 1 }

def addBinding (d : Distribution) (b : Binding) : Distribution :=
  let counted := d.countPhase b.phase
  let entered := { counted with
    totals := counted.totals.addWorkload
    spaces := update counted.spaces b.space (·.addWorkload) }
  b.targets.foldl (addTarget b) entered

/-- A cluster counts a workload once for each target entry that names the cluster. -/
def ofBindings (bindings : List Binding) : Distribution := bindings.foldl addBinding empty

def rowToJson (label : String) (row : String × Tally) : Json :=
  .object ((label, .text row.1) :: row.2.members)

def toJson (d : Distribution) : Json := .object [
  ("totals", .object (d.totals.members ++
    [("scheduled", .nat d.scheduled), ("pending", .nat d.pending), ("failed", .nat d.failed)])),
  ("perCluster", Json.list (rowToJson "clusterName") d.clusters.entries),
  ("perNamespace", Json.list (rowToJson "namespace") d.spaces.entries)]

end Distribution

end ReplicaAtlas
