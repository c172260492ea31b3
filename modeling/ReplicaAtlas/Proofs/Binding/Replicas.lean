import Mathlib.Algebra.Order.BigOperators.Ring.List
import ReplicaAtlas.Binding

/-!
Sums of replicas that stop at the largest word. Such a sum is the exact one or that word, whichever is less,
in whatever order the counts are added and also when it adds sums that have stopped before.
-/
namespace ReplicaAtlas.Replicas

def total (counts : List UInt32) : Nat := (counts.map (·.toNat)).sum

def capped (n : Nat) : UInt32 := (min n most).toUInt32

@[simp] theorem total_cons (count : UInt32) (counts : List UInt32) :
    total (count :: counts) = count.toNat + total counts := List.sum_cons

theorem total_append (counts more : List UInt32) : total (counts ++ more) = total counts + total more := by
  rw [total, List.map_append, List.sum_append]
  rfl

theorem total_perm {counts others : List UInt32} (same : counts.Perm others) : total counts = total others :=
  (same.map _).sum_nat

theorem toNat_capped (n : Nat) : (capped n).toNat = min n most := by
  have small : min n most < 4294967296 := by
    simp only [most]
    omega
  rw [capped, Nat.toUInt32, UInt32.toNat_ofNat']
  exact Nat.mod_eq_of_lt small

theorem add_capped (n : Nat) (count : UInt32) : add (capped n) count = capped (n + count.toNat) := by
  apply UInt32.toNat_inj.1
  rw [toNat_add, toNat_capped, toNat_capped]
  omega

theorem toNat_sum (counts : List UInt32) : (sum counts).toNat = min (total counts) most := by
  have exact : counts.foldr (fun count n => count.toNat + n) 0 = total counts := by
    induction counts with
    | nil => rfl
    | cons count counts ih => rw [List.foldr_cons, ih, total_cons]
  rw [sum, toNat_foldl_add, exact, UInt32.toNat_zero, Nat.zero_add]

/-- To stop at the largest word on the way does not change where a sum stops. -/
theorem min_total_parts {α : Type} (parts : List α) (counts : α → List UInt32) (stopped : α → UInt32)
    (sums : ∀ part ∈ parts, (stopped part).toNat = min (total (counts part)) most) :
    min (total (parts.map stopped)) most = min (total (parts.flatMap counts)) most := by
  induction parts with
  | nil => rfl
  | cons part parts ih =>
    have first := sums part List.mem_cons_self
    have rest := ih fun other member => sums other (List.mem_cons_of_mem _ member)
    rw [List.map_cons, total_cons, List.flatMap_cons, total_append]
    omega

theorem toNat_capped_flatMap {α : Type} (parts : List α) (counts : α → List UInt32) :
    (capped (total (parts.flatMap counts))).toNat =
      min (total (parts.map fun part => capped (total (counts part)))) most := by
  rw [toNat_capped]
  exact (min_total_parts parts counts _ fun part _ => toNat_capped _).symm

end ReplicaAtlas.Replicas
