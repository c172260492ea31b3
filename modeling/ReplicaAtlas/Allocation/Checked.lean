import ReplicaAtlas.Allocation
import ReplicaAtlas.Number.Word

/-!
Allocation step by step on machine words: replicas and weights are words of 32 bits, the total weight and the
products with it words of 64 bits, and every step is refused that leaves its word.
-/
namespace ReplicaAtlas

namespace Allocation

def checkedTotal (weights : Table UInt32) (clusters : List String) : Checked UInt64 :=
  clusters.foldlM (fun total cluster => Wide.add total (weightOf weights cluster).toUInt64) 0

def checkedShare (replicas weight : UInt32) (total : UInt64) : Checked UInt32 :=
  if total = 0 then .ok 0
  else do
    let product ← Wide.mul replicas.toUInt64 weight.toUInt64
    let quotient ← Wide.div product total
    Wide.narrow quotient

def checkedLast (clusters : List String) : Checked Nat :=
  if clusters.length < 1 then .error .underflow else .ok (clusters.length - 1)

/-- Shares by weight from a position on. The last cluster takes what is left, and only the shares before it are
added up. -/
def checkedWeightedFrom (replicas : UInt32) (weights : Table UInt32) (total : UInt64) (last index : Nat)
    (given : UInt32) : List String → Checked (List Allocation)
  | [] => .ok []
  | cluster :: rest => do
    let weight := weightOf weights cluster
    let amount ← if index = last then Word.sub replicas given else checkedShare replicas weight total
    let given ← if index = last then .ok given else Word.add given amount
    let others ← checkedWeightedFrom replicas weights total last (index + 1) given rest
    return ⟨cluster, amount, s!"divided by weight {weight}/{total}"⟩ :: others

def checkedWeighted (replicas : UInt32) (clusters : List String) (weights : Table UInt32) :
    Checked (List Allocation) := do
  let total ← checkedTotal weights clusters
  let last ← checkedLast clusters
  checkedWeightedFrom replicas weights total last 0 0 clusters

def checkedEvenShare (base extra position : UInt32) : Checked UInt32 :=
  if position < extra then Word.add base 1 else .ok base

def checkedEvenFrom (base extra count : UInt32) (index : Nat) : List String → Checked (List Allocation)
  | [] => .ok []
  | cluster :: rest => do
    let position ← Word.ofNat index
    let amount ← checkedEvenShare base extra position
    let others ← checkedEvenFrom base extra count (index + 1) rest
    return ⟨cluster, amount, s!"divided evenly across {count} clusters"⟩ :: others

def checkedUniform (replicas : UInt32) (clusters : List String) : Checked (List Allocation) := do
  let count ← Word.ofNat clusters.length
  let base ← Word.div replicas count
  let extra ← Word.mod replicas count
  checkedEvenFrom base extra count 0 clusters

end Allocation

def checkedAllocate (replicas : UInt32) (clusters : List String) (mode : AllocationMode) :
    Checked (List Allocation) :=
  if clusters.isEmpty then .ok []
  else match mode with
    | .duplicated => .ok (Allocation.duplicated replicas clusters)
    | .weighted weights => Allocation.checkedWeighted replicas clusters weights
    | .uniform => Allocation.checkedUniform replicas clusters

end ReplicaAtlas
