import ReplicaAtlas.Json.Basic

/-!
Allocation of replicas to clusters in list order. Duplicated mode gives every cluster all replicas. The
divided modes round shares down and make up for it so that the shares sum to the replicas asked for: by
weight the last cluster takes what is left, evenly the leading clusters take one more each.
-/
namespace ReplicaAtlas

inductive Strategy where
  | duplicated
  | divided
  deriving DecidableEq, Repr

namespace Strategy

def name : Strategy → String
  | .duplicated => "Duplicated"
  | .divided => "Divided"

def named? (text : String) : Option Strategy :=
  if text = "Duplicated" then some .duplicated
  else if text = "Divided" then some .divided
  else none

theorem named?_eq_some_iff (text : String) (s : Strategy) : named? text = some s ↔ text = s.name := by
  cases s <;> simp only [named?, name] <;> split <;> simp_all

end Strategy

inductive AllocationMode where
  | duplicated
  | weighted (weights : Table UInt32)
  | uniform

def AllocationMode.divided (weights : Table UInt32) : AllocationMode :=
  if weights.isEmpty then .uniform else .weighted weights

structure Allocation where
  cluster : String
  replicas : UInt32
  reason : String
  deriving DecidableEq, Repr

namespace Allocation

def toJson (a : Allocation) : Json := .object [
  ("clusterName", .text a.cluster), ("replicas", .word a.replicas), ("reason", .text a.reason)]

def defaultWeight : UInt32 := 1

def weightOf (weights : Table UInt32) (cluster : String) : UInt32 := (weights.get? cluster).getD defaultWeight

def totalWeight (weights : Table UInt32) (clusters : List String) : Nat :=
  clusters.foldr (fun c n => (weightOf weights c).toNat + n) 0

def share (replicas weight total : Nat) : Nat := if total = 0 then 0 else replicas * weight / total

def duplicated (replicas : UInt32) (clusters : List String) : List Allocation :=
  clusters.map fun cluster =>
    ⟨cluster, replicas, s!"duplicated: every target cluster runs all {replicas} replicas"⟩

/-- Shares by weight, where `given` replicas went to earlier clusters. -/
def weightedFrom (replicas : UInt32) (weights : Table UInt32) (total given : Nat) :
    List String → List Allocation
  | [] => []
  | cluster :: rest =>
    let weight := weightOf weights cluster
    let amount := if rest.isEmpty then replicas.toNat - given else share replicas.toNat weight.toNat total
    ⟨cluster, amount.toUInt32, s!"divided by weight {weight}/{total}"⟩ ::
      weightedFrom replicas weights total (given + amount) rest

def weighted (replicas : UInt32) (clusters : List String) (weights : Table UInt32) : List Allocation :=
  weightedFrom replicas weights (totalWeight weights clusters) 0 clusters

def evenFrom (base extra count : Nat) : List String → List Allocation
  | [] => []
  | cluster :: rest =>
    ⟨cluster, (if 0 < extra then base + 1 else base).toUInt32, s!"divided evenly across {count} clusters"⟩ ::
      evenFrom base (extra - 1) count rest

def uniform (replicas : UInt32) (clusters : List String) : List Allocation :=
  let count := clusters.length
  evenFrom (replicas.toNat / count) (replicas.toNat % count) count clusters

end Allocation

def allocate (replicas : UInt32) (clusters : List String) : AllocationMode → List Allocation
  | .duplicated => Allocation.duplicated replicas clusters
  | .weighted weights => Allocation.weighted replicas clusters weights
  | .uniform => Allocation.uniform replicas clusters

end ReplicaAtlas
