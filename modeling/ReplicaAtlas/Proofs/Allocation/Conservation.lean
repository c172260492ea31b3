import ReplicaAtlas.Allocation.Checked

/-!
Allocation conserves replicas. The shares of a division sum to the replicas asked for, every allocation has
one entry for each cluster in list order, and no step of the allocation leaves its machine word.
-/
namespace ReplicaAtlas.Allocation

def handedOut (entries : List Allocation) : Nat := entries.foldr (fun entry n => entry.replicas.toNat + n) 0

@[simp] theorem handedOut_nil : handedOut [] = 0 := rfl

@[simp] theorem handedOut_cons (entry : Allocation) (entries : List Allocation) :
    handedOut (entry :: entries) = entry.replicas.toNat + handedOut entries := rfl

@[simp] theorem totalWeight_nil (weights : Table UInt32) : totalWeight weights [] = 0 := rfl

@[simp] theorem totalWeight_cons (weights : Table UInt32) (cluster : String) (rest : List String) :
    totalWeight weights (cluster :: rest) = (weightOf weights cluster).toNat + totalWeight weights rest := rfl

theorem share_mul_le (replicas weight total : Nat) : share replicas weight total * total ≤ replicas * weight := by
  unfold share
  split
  case isTrue none => simp
  case isFalse some => exact Nat.div_mul_le_self _ _

/-- What earlier clusters were given leaves room for the shares of the clusters that remain. -/
structure Leaves (replicas given total remaining : Nat) : Prop where
  room : given * total + replicas * remaining ≤ replicas * total
  untouched : total = 0 → given = 0

namespace Leaves

variable {replicas given total remaining weight : Nat}

theorem start (replicas total : Nat) : Leaves replicas 0 total total := ⟨by simp, fun _ => rfl⟩

theorem given_le (leaves : Leaves replicas given total remaining) : given ≤ replicas := by
  rcases Nat.eq_zero_or_pos total with none | some
  · rw [leaves.untouched none]
    exact Nat.zero_le _
  · have room := leaves.room
    exact Nat.le_of_mul_le_mul_right (by omega) some

theorem step (leaves : Leaves replicas given total (weight + remaining)) :
    Leaves replicas (given + share replicas weight total) total remaining := by
  constructor
  · have part := share_mul_le replicas weight total
    have room := leaves.room
    rw [Nat.mul_add] at room
    rw [Nat.add_mul]
    omega
  · intro none
    simp [share, none, leaves.untouched none]

theorem share_le (leaves : Leaves replicas given total (weight + remaining)) :
    share replicas weight total ≤ replicas := by
  have bound := leaves.step.given_le
  omega

end Leaves

theorem weightedFrom_clusters (replicas : UInt32) (weights : Table UInt32) (total given : Nat)
    (clusters : List String) :
    (weightedFrom replicas weights total given clusters).map (·.cluster) = clusters := by
  induction clusters generalizing given with
  | nil => rfl
  | cons cluster rest ih => simp [weightedFrom, ih]

theorem evenFrom_clusters (base extra count : Nat) (clusters : List String) :
    (evenFrom base extra count clusters).map (·.cluster) = clusters := by
  induction clusters generalizing extra with
  | nil => rfl
  | cons cluster rest ih => simp [evenFrom, ih]

end ReplicaAtlas.Allocation

namespace ReplicaAtlas

open Allocation

theorem allocate_clusters (replicas : UInt32) (clusters : List String) (mode : AllocationMode) :
    (allocate replicas clusters mode).map (·.cluster) = clusters := by
  cases mode with
  | duplicated => simp [allocate, duplicated, Function.comp_def]
  | weighted weights => exact weightedFrom_clusters ..
  | uniform => exact evenFrom_clusters ..

end ReplicaAtlas

namespace ReplicaAtlas.Allocation

theorem weightedFrom_handedOut {replicas : UInt32} {weights : Table UInt32} {total given : Nat}
    {clusters : List String} (leaves : Leaves replicas.toNat given total (totalWeight weights clusters))
    (nonempty : clusters ≠ []) :
    handedOut (weightedFrom replicas weights total given clusters) = replicas.toNat - given := by
  induction clusters generalizing given with
  | nil => exact absurd rfl nonempty
  | cons cluster rest ih =>
    have small := replicas.toNat_lt
    rw [totalWeight_cons] at leaves
    cases rest with
    | nil =>
      have fits : replicas.toNat - given < 4294967296 := by omega
      simp [weightedFrom, Nat.mod_eq_of_lt fits]
    | cons next rest =>
      have bound := leaves.step.given_le
      have fits : share replicas.toNat (weightOf weights cluster).toNat total < 4294967296 := by
        have part := leaves.share_le
        omega
      have others := ih leaves.step (List.cons_ne_nil _ _)
      rw [weightedFrom]
      simp only [List.isEmpty_cons, Bool.false_eq_true, if_false, handedOut_cons, others,
        Word.toNat_toUInt32 fits]
      omega

theorem weighted_handedOut (replicas : UInt32) (weights : Table UInt32) {clusters : List String}
    (nonempty : clusters ≠ []) : handedOut (weighted replicas clusters weights) = replicas.toNat := by
  rw [weighted, weightedFrom_handedOut (Leaves.start ..) nonempty, Nat.sub_zero]

theorem evenFrom_handedOut {base : Nat} (extra count : Nat) {clusters : List String}
    (fits : base + min extra 1 < 4294967296) (enough : extra ≤ clusters.length) :
    handedOut (evenFrom base extra count clusters) = base * clusters.length + extra := by
  induction clusters generalizing extra with
  | nil =>
    have none : extra = 0 := by simpa using enough
    simp [evenFrom, none]
  | cons cluster rest ih =>
    rw [List.length_cons] at enough
    have others := ih (extra - 1) (by omega) (by omega)
    rw [evenFrom, handedOut_cons, others, List.length_cons, Nat.mul_succ]
    split
    case isTrue some =>
      rw [Word.toNat_toUInt32 (by omega)]
      omega
    case isFalse none =>
      rw [Word.toNat_toUInt32 (by omega)]
      omega

/-- Where one more replica is handed out, there is one more to hand out. -/
theorem base_add_extra_le (replicas : Nat) {count : Nat} (nonempty : 0 < count) :
    replicas / count + min (replicas % count) 1 ≤ replicas := by
  have parts := Nat.div_add_mod replicas count
  have least : replicas / count ≤ count * (replicas / count) := Nat.le_mul_of_pos_left _ nonempty
  omega

theorem uniform_handedOut (replicas : UInt32) {clusters : List String} (nonempty : clusters ≠ []) :
    handedOut (uniform replicas clusters) = replicas.toNat := by
  have some : 0 < clusters.length := List.length_pos_iff.2 nonempty
  have small := replicas.toNat_lt
  have least := base_add_extra_le replicas.toNat some
  have below := Nat.mod_lt replicas.toNat some
  rw [uniform, evenFrom_handedOut _ _ (by omega) (by omega)]
  exact Nat.div_add_mod' ..

end ReplicaAtlas.Allocation

namespace ReplicaAtlas

open Allocation

/-- To divide hands out exactly the replicas asked for, by weight as well as evenly. -/
theorem allocate_divided_handedOut (replicas : UInt32) (weights : Table UInt32) {clusters : List String}
    (nonempty : clusters ≠ []) :
    handedOut (allocate replicas clusters (.divided weights)) = replicas.toNat := by
  unfold AllocationMode.divided
  split
  case isTrue none => exact uniform_handedOut replicas nonempty
  case isFalse some => exact weighted_handedOut replicas weights nonempty

theorem allocate_duplicated_replicas {replicas : UInt32} {clusters : List String} {entry : Allocation}
    (member : entry ∈ allocate replicas clusters .duplicated) : entry.replicas = replicas := by
  obtain ⟨cluster, _, rfl⟩ := List.mem_map.1 member
  rfl

end ReplicaAtlas

namespace ReplicaAtlas.Allocation

theorem totalWeight_le (weights : Table UInt32) (clusters : List String) :
    totalWeight weights clusters ≤ clusters.length * 4294967295 := by
  induction clusters with
  | nil => simp
  | cons cluster rest ih =>
    have small := (weightOf weights cluster).toNat_lt
    rw [totalWeight_cons, List.length_cons, Nat.succ_mul]
    omega

theorem totalWeight_fits (weights : Table UInt32) {clusters : List String}
    (few : clusters.length < 4294967296) : totalWeight weights clusters < 18446744073709551616 := by
  have bound := totalWeight_le weights clusters
  omega

private theorem foldlM_wide_add (weights : Table UInt32) (clusters : List String) (start : UInt64)
    (fits : start.toNat + totalWeight weights clusters < 18446744073709551616) :
    clusters.foldlM (fun total cluster => Wide.add total (weightOf weights cluster).toUInt64) start =
      (.ok (start.toNat + totalWeight weights clusters).toUInt64 : Checked UInt64) := by
  induction clusters generalizing start with
  | nil => simp [pure, Except.pure]
  | cons cluster rest ih =>
    rw [totalWeight_cons] at fits ⊢
    have part : start.toNat + (weightOf weights cluster).toNat < 18446744073709551616 := by omega
    have next := ih (start.toNat + (weightOf weights cluster).toNat).toUInt64
    rw [Wide.toNat_toUInt64 part, Nat.add_assoc] at next
    rw [List.foldlM_cons, Wide.add, UInt32.toNat_toUInt64, Wide.ofNat_ok part]
    exact next fits

theorem checkedTotal_ok (weights : Table UInt32) {clusters : List String}
    (few : clusters.length < 4294967296) :
    checkedTotal weights clusters = .ok (totalWeight weights clusters).toUInt64 := by
  have fits := totalWeight_fits weights few
  have sum := foldlM_wide_add weights clusters 0
  rw [UInt64.toNat_zero, Nat.zero_add] at sum
  exact sum fits

theorem mul_fits (a b : UInt32) : a.toNat * b.toNat < 18446744073709551616 := by
  have bound : a.toNat * b.toNat ≤ 4294967295 * 4294967295 :=
    Nat.mul_le_mul (Nat.le_of_lt_succ a.toNat_lt) (Nat.le_of_lt_succ b.toNat_lt)
  omega

theorem checkedShare_ok {replicas weight : UInt32} {total : UInt64}
    (bound : share replicas.toNat weight.toNat total.toNat ≤ replicas.toNat) :
    checkedShare replicas weight total = .ok (share replicas.toNat weight.toNat total.toNat).toUInt32 := by
  have small := replicas.toNat_lt
  have product := mul_fits replicas weight
  unfold checkedShare
  split
  case isTrue none => simp [none, share]
  case isFalse some =>
    have positive : total.toNat ≠ 0 := fun zero => some (UInt64.toNat_inj.1 zero)
    rw [share, if_neg positive] at bound ⊢
    have quotient : ((replicas.toNat * weight.toNat).toUInt64 / total).toNat =
        replicas.toNat * weight.toNat / total.toNat := by
      rw [UInt64.toNat_div, Wide.toNat_toUInt64 product]
    simp only [Wide.mul, UInt32.toNat_toUInt64, Wide.ofNat_ok product, Wide.div, if_neg some, Wide.narrow,
      bind, Except.bind, quotient]
    exact Word.ofNat_ok (by omega)

theorem word_sub_ok {a b : UInt32} (le : b.toNat ≤ a.toNat) :
    Word.sub a b = .ok (a.toNat - b.toNat).toUInt32 := by
  have small := a.toNat_lt
  have difference : a - b = (a.toNat - b.toNat).toUInt32 := by
    apply UInt32.toNat_inj.1
    rw [UInt32.toNat_sub_of_le _ _ (UInt32.le_iff_toNat_le.2 le), Word.toNat_toUInt32 (by omega)]
  rw [Word.sub, if_pos (UInt32.le_iff_toNat_le.2 le), difference]

theorem checkedWeightedFrom_ok {replicas : UInt32} {weights : Table UInt32} {total : UInt64} {last index : Nat}
    {clusters : List String} (given : UInt32) (position : index + clusters.length = last + 1)
    (leaves : Leaves replicas.toNat given.toNat total.toNat (totalWeight weights clusters)) :
    checkedWeightedFrom replicas weights total last index given clusters =
      .ok (weightedFrom replicas weights total.toNat given.toNat clusters) := by
  induction clusters generalizing given index with
  | nil => rfl
  | cons cluster rest ih =>
    have small := replicas.toNat_lt
    have room := leaves.given_le
    rw [totalWeight_cons] at leaves
    rw [List.length_cons] at position
    cases rest with
    | nil =>
      have final : index = last := by simpa using position
      simp only [checkedWeightedFrom, weightedFrom, if_pos final, List.isEmpty_nil, if_true, word_sub_ok room,
        bind, Except.bind, pure, Except.pure]
      rfl
    | cons next rest =>
      have before : index ≠ last := by
        rw [List.length_cons] at position
        omega
      have bound := leaves.step.given_le
      have part := checkedShare_ok leaves.share_le
      have fits : share replicas.toNat (weightOf weights cluster).toNat total.toNat < 4294967296 := by omega
      have sum : Word.add given (share replicas.toNat (weightOf weights cluster).toNat total.toNat).toUInt32 =
          .ok (given.toNat + share replicas.toNat (weightOf weights cluster).toNat total.toNat).toUInt32 := by
        rw [Word.add, Word.toNat_toUInt32 fits]
        exact Word.ofNat_ok (by omega)
      have others := ih
        (given.toNat + share replicas.toNat (weightOf weights cluster).toNat total.toNat).toUInt32
        (show index + 1 + (next :: rest).length = last + 1 by omega)
      rw [Word.toNat_toUInt32 (by omega)] at others
      rw [checkedWeightedFrom, weightedFrom]
      simp only [if_neg before, List.isEmpty_cons, Bool.false_eq_true, if_false, part, sum, others leaves.step,
        bind, Except.bind, pure, Except.pure]
      rfl

theorem checkedWeighted_ok (replicas : UInt32) (weights : Table UInt32) {clusters : List String}
    (nonempty : clusters ≠ []) (few : clusters.length < 4294967296) :
    checkedWeighted replicas clusters weights = .ok (weighted replicas clusters weights) := by
  have some : 0 < clusters.length := List.length_pos_iff.2 nonempty
  have last : checkedLast clusters = .ok (clusters.length - 1) := if_neg (by omega)
  have wide := Wide.toNat_toUInt64 (totalWeight_fits weights few)
  have leaves : Leaves replicas.toNat (0 : UInt32).toNat (totalWeight weights clusters).toUInt64.toNat
      (totalWeight weights clusters) := by
    rw [wide, UInt32.toNat_zero]
    exact Leaves.start ..
  have shares := checkedWeightedFrom_ok 0 (show 0 + clusters.length = clusters.length - 1 + 1 by omega) leaves
  rw [wide, UInt32.toNat_zero] at shares
  rw [checkedWeighted, checkedTotal_ok weights few, last]
  exact shares

theorem checkedEvenShare_ok {base extra : UInt32} {index : Nat} (position : index < 4294967296)
    (fits : base.toNat + min (extra.toNat - index) 1 < 4294967296) :
    checkedEvenShare base extra index.toUInt32 =
      .ok (if 0 < extra.toNat - index then base.toNat + 1 else base.toNat).toUInt32 := by
  have less : index.toUInt32 < extra ↔ 0 < extra.toNat - index := by
    rw [UInt32.lt_iff_toNat_lt, Word.toNat_toUInt32 position]
    omega
  unfold checkedEvenShare
  by_cases some : 0 < extra.toNat - index
  · rw [if_pos (less.2 some), if_pos some, Word.add, UInt32.toNat_one]
    exact Word.ofNat_ok (by omega)
  · rw [if_neg (fun h => some (less.1 h)), if_neg some]
    simp

theorem checkedEvenFrom_ok {base extra : UInt32} (count : UInt32) (index : Nat) {clusters : List String}
    (fits : base.toNat + min (extra.toNat - index) 1 < 4294967296)
    (few : index + clusters.length ≤ 4294967296) :
    checkedEvenFrom base extra count index clusters =
      .ok (evenFrom base.toNat (extra.toNat - index) count.toNat clusters) := by
  induction clusters generalizing index with
  | nil => rfl
  | cons cluster rest ih =>
    rw [List.length_cons] at few
    have position : index < 4294967296 := by omega
    have amount := checkedEvenShare_ok position fits
    have others := ih (index + 1) (by omega) (by omega)
    rw [checkedEvenFrom, evenFrom, Word.ofNat_ok position]
    simp only [amount, others, bind, Except.bind, pure, Except.pure, Nat.sub_sub]
    rfl

theorem checkedUniform_ok (replicas : UInt32) {clusters : List String} (nonempty : clusters ≠ [])
    (few : clusters.length < 4294967296) :
    checkedUniform replicas clusters = .ok (uniform replicas clusters) := by
  have small := replicas.toNat_lt
  have some : 0 < clusters.length := List.length_pos_iff.2 nonempty
  have least := base_add_extra_le replicas.toNat some
  have count := Word.toNat_toUInt32 few
  have positive : clusters.length.toUInt32 ≠ 0 := by
    intro zero
    rw [zero, UInt32.toNat_zero] at count
    omega
  have base : (replicas / clusters.length.toUInt32).toNat = replicas.toNat / clusters.length := by
    rw [UInt32.toNat_div, count]
  have extra : (replicas % clusters.length.toUInt32).toNat = replicas.toNat % clusters.length := by
    rw [UInt32.toNat_mod, count]
  simp only [checkedUniform, Word.ofNat_ok few, Word.div, Word.mod, if_neg positive, bind, Except.bind]
  rw [checkedEvenFrom_ok _ _ (by omega) (by omega), base, extra, count]
  rfl

end ReplicaAtlas.Allocation

namespace ReplicaAtlas

open Allocation

/-- For fewer than 2^32 clusters every step of an allocation stays in its word. -/
theorem checkedAllocate_ok (replicas : UInt32) {clusters : List String} (few : clusters.length < 4294967296)
    (mode : AllocationMode) : checkedAllocate replicas clusters mode = .ok (allocate replicas clusters mode) := by
  by_cases nonempty : clusters = []
  · subst nonempty
    cases mode <;> rfl
  · have some : clusters.isEmpty = false := by simpa using nonempty
    unfold checkedAllocate
    simp only [some, Bool.false_eq_true, if_false]
    cases mode with
    | duplicated => rfl
    | weighted weights => exact checkedWeighted_ok replicas weights nonempty few
    | uniform => exact checkedUniform_ok replicas nonempty few

end ReplicaAtlas
