import Mathlib.Data.List.Forall2
import ReplicaAtlas.Proofs.Allocation.Conservation

/-!
How large the shares of a division by weight are. Every cluster but the last gets its share rounded down. The last
one gets what is left: its own share and what the rounding kept back from the others, which for each of them is
less than the total weight in parts of a replica.
-/
namespace ReplicaAtlas.Allocation

theorem share_eq_div (replicas weight total : Nat) : share replicas weight total = replicas * weight / total := by
  unfold share
  split
  case isTrue none => rw [none, Nat.div_zero]
  case isFalse some => rfl

theorem share_of_no_weight (replicas weight : Nat) : share replicas weight 0 = 0 := if_pos rfl

theorem share_mono {fewer more : Nat} (le : fewer ≤ more) (weight total : Nat) :
    share fewer weight total ≤ share more weight total := by
  rw [share_eq_div, share_eq_div]
  exact Nat.div_le_div_right (Nat.mul_le_mul_right weight le)

theorem share_le_of_weight_le {weight total : Nat} (replicas : Nat) (le : weight ≤ total) :
    share replicas weight total ≤ replicas := by
  rw [share_eq_div]
  apply Nat.div_le_of_le_mul
  rw [Nat.mul_comm total replicas]
  exact Nat.mul_le_mul_left replicas le

theorem weight_le_totalWeight (weights : Table UInt32) {clusters : List String} {cluster : String}
    (member : cluster ∈ clusters) : (weightOf weights cluster).toNat ≤ totalWeight weights clusters := by
  induction clusters with
  | nil => exact absurd member List.not_mem_nil
  | cons first rest ih =>
    rw [totalWeight_cons]
    rcases List.mem_cons.1 member with rfl | later
    · exact Nat.le_add_right ..
    · exact Nat.le_add_left_of_le (ih later)

theorem totalWeight_concat (weights : Table UInt32) (front : List String) (last : String) :
    totalWeight weights (front ++ [last]) = totalWeight weights front + (weightOf weights last).toNat := by
  induction front with
  | nil => simp
  | cons first rest ih =>
    rw [List.cons_append, totalWeight_cons, totalWeight_cons, ih, Nat.add_assoc]

def rounded (replicas : UInt32) (weights : Table UInt32) (total : Nat) (cluster : String) : Allocation :=
  ⟨cluster, (share replicas.toNat (weightOf weights cluster).toNat total).toUInt32,
    s!"divided by weight {weightOf weights cluster}/{total}"⟩

def roundedTotal (replicas : Nat) (weights : Table UInt32) (total : Nat) (clusters : List String) : Nat :=
  clusters.foldr (fun cluster n => share replicas (weightOf weights cluster).toNat total + n) 0

/-- What rounding keeps back from clusters, in parts of a replica of which `total` make one. -/
def keptBack (replicas : Nat) (weights : Table UInt32) (total : Nat) (clusters : List String) : Nat :=
  clusters.foldr (fun cluster n => replicas * (weightOf weights cluster).toNat % total + n) 0

@[simp] theorem roundedTotal_cons (replicas : Nat) (weights : Table UInt32) (total : Nat) (cluster : String)
    (rest : List String) : roundedTotal replicas weights total (cluster :: rest) =
      share replicas (weightOf weights cluster).toNat total + roundedTotal replicas weights total rest := rfl

@[simp] theorem keptBack_cons (replicas : Nat) (weights : Table UInt32) (total : Nat) (cluster : String)
    (rest : List String) : keptBack replicas weights total (cluster :: rest) =
      replicas * (weightOf weights cluster).toNat % total + keptBack replicas weights total rest := rfl

theorem roundedTotal_mul_add_keptBack (replicas : Nat) (weights : Table UInt32) (total : Nat)
    (clusters : List String) :
    roundedTotal replicas weights total clusters * total + keptBack replicas weights total clusters =
      replicas * totalWeight weights clusters := by
  induction clusters with
  | nil => simp [roundedTotal, keptBack]
  | cons cluster rest ih =>
    have parts := Nat.div_add_mod' (replicas * (weightOf weights cluster).toNat) total
    rw [← share_eq_div] at parts
    rw [roundedTotal_cons, keptBack_cons, totalWeight_cons, Nat.add_mul, Nat.mul_add]
    omega

theorem keptBack_le (replicas : Nat) (weights : Table UInt32) {total : Nat} (some : 0 < total)
    (clusters : List String) :
    keptBack replicas weights total clusters ≤ clusters.length * (total - 1) := by
  induction clusters with
  | nil => simp [keptBack]
  | cons cluster rest ih =>
    have below := Nat.mod_lt (replicas * (weightOf weights cluster).toNat) some
    rw [keptBack_cons, List.length_cons, Nat.succ_mul]
    omega

theorem roundedTotal_of_no_weight (replicas : Nat) (weights : Table UInt32) (clusters : List String) :
    roundedTotal replicas weights 0 clusters = 0 := by
  induction clusters with
  | nil => rfl
  | cons cluster rest ih => rw [roundedTotal_cons, share_of_no_weight, ih]

def left (replicas : UInt32) (weights : Table UInt32) (front : List String) (last : String) : Nat :=
  replicas.toNat - roundedTotal replicas.toNat weights (totalWeight weights (front ++ [last])) front

theorem left_lt (replicas : UInt32) (weights : Table UInt32) (front : List String) (last : String) :
    left replicas weights front last < 4294967296 := by
  have small := replicas.toNat_lt
  unfold left
  omega

/-- The last cluster has its own share and what was kept back from the others. -/
theorem left_mul (replicas : UInt32) (weights : Table UInt32) (front : List String) (last : String) :
    left replicas weights front last * totalWeight weights (front ++ [last]) =
      replicas.toNat * (weightOf weights last).toNat +
        keptBack replicas.toNat weights (totalWeight weights (front ++ [last])) front := by
  have others := roundedTotal_mul_add_keptBack replicas.toNat weights (totalWeight weights (front ++ [last])) front
  have all : replicas.toNat * totalWeight weights (front ++ [last]) =
      replicas.toNat * totalWeight weights front + replicas.toNat * (weightOf weights last).toNat := by
    rw [totalWeight_concat, Nat.mul_add]
  rw [left, Nat.sub_mul]
  omega

theorem weightedFrom_concat (replicas : UInt32) (weights : Table UInt32) (total given : Nat)
    (front : List String) (last : String) :
    weightedFrom replicas weights total given (front ++ [last]) =
      front.map (rounded replicas weights total) ++
        [⟨last, (replicas.toNat - (given + roundedTotal replicas.toNat weights total front)).toUInt32,
          s!"divided by weight {weightOf weights last}/{total}"⟩] := by
  induction front generalizing given with
  | nil => simp [weightedFrom, roundedTotal]
  | cons cluster rest ih =>
    have more : (rest ++ [last]).isEmpty = false := by simp
    rw [List.cons_append, weightedFrom]
    simp only [more, Bool.false_eq_true, if_false, ih, List.map_cons, List.cons_append, roundedTotal_cons,
      Nat.add_assoc]
    rfl

end ReplicaAtlas.Allocation

namespace ReplicaAtlas

open Allocation

theorem allocate_weighted_concat (replicas : UInt32) (weights : Table UInt32) (front : List String)
    (last : String) :
    allocate replicas (front ++ [last]) (.weighted weights) =
      front.map (rounded replicas weights (totalWeight weights (front ++ [last]))) ++
        [⟨last, (left replicas weights front last).toUInt32,
          s!"divided by weight {weightOf weights last}/{totalWeight weights (front ++ [last])}"⟩] := by
  rw [allocate, weighted, weightedFrom_concat, Nat.zero_add, left]

end ReplicaAtlas

namespace ReplicaAtlas.Allocation

/-- How replicas are shared out by weight, where the last cluster gets `rest`. -/
structure SharedOut (replicas : UInt32) (weights : Table UInt32) (front : List String) (last : String)
    (entries : List Allocation) (rest : Nat) : Prop where
  shares : entries.map (fun entry => (entry.cluster, entry.replicas.toNat)) =
    front.map (fun cluster => (cluster, if totalWeight weights (front ++ [last]) = 0 then 0
      else replicas.toNat * (weightOf weights cluster).toNat / totalWeight weights (front ++ [last]))) ++
    [(last, rest)]
  atLeast : 0 < totalWeight weights (front ++ [last]) →
    replicas.toNat * (weightOf weights last).toNat ≤ rest * totalWeight weights (front ++ [last])
  atMost : 0 < totalWeight weights (front ++ [last]) →
    rest * totalWeight weights (front ++ [last]) ≤ replicas.toNat * (weightOf weights last).toNat +
      ((front ++ [last]).length - 1) * (totalWeight weights (front ++ [last]) - 1)
  unweighted : totalWeight weights (front ++ [last]) = 0 → rest = replicas.toNat
  alone : (front ++ [last]).length = 1 → rest = replicas.toNat
  within : ∀ entry ∈ entries.dropLast, entry.replicas ≤ replicas

variable (replicas : UInt32) (weights : Table UInt32) (front : List String) (last : String)

theorem rounded_fits {cluster : String} (member : cluster ∈ front) :
    (rounded replicas weights (totalWeight weights (front ++ [last])) cluster).replicas.toNat =
      share replicas.toNat (weightOf weights cluster).toNat (totalWeight weights (front ++ [last])) := by
  have weight := weight_le_totalWeight weights (List.mem_append_left [last] member)
  have bound := share_le_of_weight_le replicas.toNat weight
  have small := replicas.toNat_lt
  exact Word.toNat_toUInt32 (by omega)

theorem rounded_le {cluster : String} (member : cluster ∈ front) :
    (rounded replicas weights (totalWeight weights (front ++ [last])) cluster).replicas ≤ replicas := by
  have weight := weight_le_totalWeight weights (List.mem_append_left [last] member)
  rw [UInt32.le_iff_toNat_le, rounded_fits replicas weights front last member]
  exact share_le_of_weight_le replicas.toNat weight

theorem rounded_mono {more : UInt32} (le : replicas ≤ more) {cluster : String} (member : cluster ∈ front) :
    (rounded replicas weights (totalWeight weights (front ++ [last])) cluster).replicas ≤
      (rounded more weights (totalWeight weights (front ++ [last])) cluster).replicas := by
  rw [UInt32.le_iff_toNat_le, rounded_fits replicas weights front last member,
    rounded_fits more weights front last member]
  exact share_mono (UInt32.le_iff_toNat_le.1 le) _ _

theorem dropLast_allocate_weighted :
    (allocate replicas (front ++ [last]) (.weighted weights)).dropLast =
      front.map (rounded replicas weights (totalWeight weights (front ++ [last]))) := by
  rw [allocate_weighted_concat, List.dropLast_concat]

theorem sharedOut_allocate :
    SharedOut replicas weights front last (allocate replicas (front ++ [last]) (.weighted weights))
      (left replicas weights front last) where
  shares := by
    rw [allocate_weighted_concat, List.map_append, List.map_map, List.map_singleton,
      Word.toNat_toUInt32 (left_lt replicas weights front last)]
    congr 1
    apply List.map_congr_left
    intro cluster member
    have fits := rounded_fits replicas weights front last member
    rw [share] at fits
    exact Prod.ext rfl fits
  atLeast _ := by
    rw [left_mul]
    exact Nat.le_add_right ..
  atMost some := by
    rw [left_mul, List.length_append, List.length_singleton, Nat.add_sub_cancel]
    exact Nat.add_le_add_left (keptBack_le replicas.toNat weights some front) _
  unweighted none := by
    rw [left, none, roundedTotal_of_no_weight, Nat.sub_zero]
  alone single := by
    have none : front = [] := by simpa using single
    rw [left, none]
    rfl
  within entry member := by
    rw [dropLast_allocate_weighted] at member
    obtain ⟨cluster, inside, rfl⟩ := List.mem_map.1 member
    exact rounded_le replicas weights front last inside

/-- By weight every cluster but the last gets the exact share rounded down, or nothing when there is no weight at
all, and never fewer of more replicas. The last cluster gets at least its exact share and exceeds it by less than
one replica for each other cluster; without any weight, or alone, it gets all replicas. No step of this leaves
its machine word. -/
theorem weighted_shares_round_down (few : (front ++ [last]).length < 4294967296) :
    checkedAllocate replicas (front ++ [last]) (.weighted weights) =
      .ok (allocate replicas (front ++ [last]) (.weighted weights)) ∧
    (∃ rest, SharedOut replicas weights front last (allocate replicas (front ++ [last]) (.weighted weights)) rest) ∧
    ∀ more, replicas ≤ more →
      List.Forall₂ (fun entry larger => entry.cluster = larger.cluster ∧ entry.replicas ≤ larger.replicas)
        (allocate replicas (front ++ [last]) (.weighted weights)).dropLast
        (allocate more (front ++ [last]) (.weighted weights)).dropLast := by
  refine ⟨checkedAllocate_ok replicas few _, ⟨_, sharedOut_allocate replicas weights front last⟩, ?_⟩
  intro more le
  rw [dropLast_allocate_weighted, dropLast_allocate_weighted, List.forall₂_map_left_iff,
    List.forall₂_map_right_iff, List.forall₂_same]
  intro cluster member
  exact ⟨rfl, rounded_mono replicas weights front last le member⟩

theorem weighted_shares_round_down_of_largest :
    let weights := (Table.empty.insert "a" 4294967295).insert "b" 0
    let entries := allocate 4294967295 (["a", "b"] ++ ["a"]) (.weighted weights)
    (["a", "b"] ++ ["a"]).length < 4294967296 ∧ (7 : UInt32) ≤ 4294967295 ∧
      checkedAllocate 4294967295 (["a", "b"] ++ ["a"]) (.weighted weights) = .ok entries ∧
      (∃ rest, SharedOut 4294967295 weights ["a", "b"] "a" entries rest) ∧
      entries.map (·.replicas) = [2147483647, 0, 2147483648] ∧
      List.Forall₂ (fun entry larger => entry.cluster = larger.cluster ∧ entry.replicas ≤ larger.replicas)
        (allocate 7 (["a", "b"] ++ ["a"]) (.weighted weights)).dropLast entries.dropLast := by
  intro weights entries
  have few : (["a", "b"] ++ ["a"]).length < 4294967296 := by decide
  have le : (7 : UInt32) ≤ 4294967295 := by decide
  obtain ⟨checked, shared, -⟩ := weighted_shares_round_down 4294967295 weights ["a", "b"] "a" few
  have larger := (weighted_shares_round_down 7 weights ["a", "b"] "a" few).2.2 4294967295 le
  have replicas : entries.map (·.replicas) = [2147483647, 0, 2147483648] := by decide
  exact ⟨few, le, checked, shared, replicas, larger⟩

end ReplicaAtlas.Allocation
