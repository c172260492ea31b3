import Mathlib.Data.List.Basic
import ReplicaAtlas.Proofs.Allocation.Conservation

/-!
How large the shares of an even division are. Every cluster gets the quotient, and the first ones, as many as the
remainder says, get one replica more. Of one replica more in all the first cluster that has none of these gets it; if
that is the last cluster, a round is complete, and all clusters have the same share again.
-/
namespace ReplicaAtlas.Allocation

/-- What `count` clusters get one after the other if each gets `base` and the first `extra` of them get one more. -/
def leveled (base extra count : Nat) : List Nat :=
  List.replicate extra (base + 1) ++ List.replicate (count - extra) base

theorem leveled_cons (base extra count : Nat) :
    leveled base extra (count + 1) = (if 0 < extra then base + 1 else base) :: leveled base (extra - 1) count := by
  cases extra with
  | zero => simp [leveled, List.replicate_succ]
  | succ extra => simp [leveled, List.replicate_succ]

theorem mem_leveled {base extra count share : Nat} (member : share ∈ leveled base extra count) :
    share = base + 1 ∨ share = base := by
  rcases List.mem_append.1 member with larger | smaller
  · exact .inl (List.eq_of_mem_replicate larger)
  · exact .inr (List.eq_of_mem_replicate smaller)

theorem leveled_descending (base extra count : Nat) :
    (leveled base extra count).Pairwise fun a b => b ≤ a := by
  refine List.pairwise_append.2 ⟨?_, ?_, ?_⟩
  · exact List.pairwise_replicate.2 (.inr (Nat.le_refl _))
  · exact List.pairwise_replicate.2 (.inr (Nat.le_refl _))
  · intro a larger b smaller
    rw [List.eq_of_mem_replicate larger, List.eq_of_mem_replicate smaller]
    exact Nat.le_succ _

theorem modify_leveled (base : Nat) {extra count : Nat} (less : extra < count) :
    (leveled base extra count).modify extra (· + 1) = leveled base (extra + 1) count := by
  -- The share that is raised is the first of the smaller ones, and the larger ones before it stay.
  induction extra generalizing count with
  | zero =>
    obtain ⟨others, rfl⟩ := Nat.exists_eq_add_one.2 less
    rw [leveled_cons, leveled_cons]
    rfl
  | succ extra ih =>
    obtain ⟨others, rfl⟩ := Nat.exists_eq_add_one.2 (Nat.zero_lt_of_lt less)
    have later := ih (Nat.lt_of_succ_lt_succ less)
    rw [leveled_cons, leveled_cons, List.modify_succ_cons]
    exact congrArg ((base + 1) :: ·) later

theorem leveled_round (base count : Nat) : leveled base count count = leveled (base + 1) 0 count := by
  simp [leveled]

/-- One more to hand out either goes on with the round, or completes it and leaves no remainder. -/
theorem div_mod_succ (replicas : Nat) {count : Nat} (some : 0 < count) :
    (replicas % count + 1 < count ∧ (replicas + 1) / count = replicas / count ∧
        (replicas + 1) % count = replicas % count + 1) ∨
      (replicas % count + 1 = count ∧ (replicas + 1) / count = replicas / count + 1 ∧
        (replicas + 1) % count = 0) := by
  have parts := Nat.div_add_mod replicas count
  have below := Nat.mod_lt replicas some
  rcases Nat.lt_or_eq_of_le (Nat.succ_le_of_lt below) with within | complete
  · have sum : replicas + 1 = replicas % count + 1 + count * (replicas / count) := by omega
    refine .inl ⟨within, ?_, ?_⟩
    · rw [sum, Nat.add_mul_div_left _ _ some, Nat.div_eq_of_lt within, Nat.zero_add]
    · rw [sum, Nat.add_mul_mod_self_left, Nat.mod_eq_of_lt within]
  · have sum : replicas + 1 = count * (replicas / count + 1) := by
      rw [Nat.mul_add_one]
      omega
    refine .inr ⟨complete, ?_, ?_⟩
    · rw [sum, Nat.mul_div_cancel_left _ some]
    · rw [sum, Nat.mul_mod_right]

theorem leveled_succ (replicas : Nat) {count : Nat} (some : 0 < count) :
    leveled ((replicas + 1) / count) ((replicas + 1) % count) count =
      (leveled (replicas / count) (replicas % count) count).modify (replicas % count) (· + 1) := by
  rw [modify_leveled _ (Nat.mod_lt replicas some)]
  rcases div_mod_succ replicas some with ⟨-, quotient, remainder⟩ | ⟨complete, quotient, remainder⟩
  · rw [quotient, remainder]
  · rw [quotient, remainder, complete, leveled_round]

def shares (entries : List Allocation) : List Nat := entries.map (·.replicas.toNat)

theorem evenFrom_shares {base : Nat} (extra count : Nat) {clusters : List String}
    (fits : base + min extra 1 < 4294967296) (enough : extra ≤ clusters.length) :
    shares (evenFrom base extra count clusters) = leveled base extra clusters.length := by
  induction clusters generalizing extra with
  | nil =>
    have none : extra = 0 := Nat.le_zero.1 enough
    rw [none]
    rfl
  | cons cluster rest ih =>
    have others := ih (extra - 1) (by omega) (Nat.sub_le_of_le_add enough)
    have share : (if 0 < extra then base + 1 else base) < 4294967296 := by
      split <;> omega
    have first : (if 0 < extra then base + 1 else base).toUInt32.toNat = if 0 < extra then base + 1 else base :=
      Word.toNat_toUInt32 share
    rw [List.length_cons, leveled_cons, ← others, ← first]
    rfl

variable (replicas : UInt32) {clusters : List String}

theorem uniform_shares (nonempty : clusters ≠ []) :
    shares (allocate replicas clusters .uniform) =
      leveled (replicas.toNat / clusters.length) (replicas.toNat % clusters.length) clusters.length := by
  have some : 0 < clusters.length := List.length_pos_iff.2 nonempty
  have small := replicas.toNat_lt
  have least := base_add_extra_le replicas.toNat some
  have below := Nat.mod_lt replicas.toNat some
  exact evenFrom_shares _ _ (by omega) (by omega)

structure SharedEvenly (replicas : UInt32) (clusters : List String) (entries : List Allocation) : Prop where
  names : entries.map (·.cluster) = clusters
  shares : entries.map (·.replicas.toNat) =
    List.replicate (replicas.toNat % clusters.length) (replicas.toNat / clusters.length + 1) ++
      List.replicate (clusters.length - replicas.toNat % clusters.length) (replicas.toNat / clusters.length)
  descending : entries.Pairwise fun a b => b.replicas ≤ a.replicas
  close : ∀ a ∈ entries, ∀ b ∈ entries, a.replicas.toNat ≤ b.replicas.toNat + 1

structure RaisedAt (place : Nat) (entries raised : List Allocation) : Prop where
  inside : place < entries.length
  names : raised.map (·.cluster) = entries.map (·.cluster)
  shares : raised.map (·.replicas.toNat) = (entries.map (·.replicas.toNat)).modify place (· + 1)

theorem sharedEvenly_allocate (nonempty : clusters ≠ []) :
    SharedEvenly replicas clusters (allocate replicas clusters .uniform) := by
  have counted := uniform_shares replicas nonempty
  constructor
  case names => exact allocate_clusters replicas clusters .uniform
  case shares => exact counted
  case descending =>
    have descending := leveled_descending (replicas.toNat / clusters.length) (replicas.toNat % clusters.length)
      clusters.length
    rw [← counted, shares, List.pairwise_map] at descending
    exact descending.imp UInt32.le_iff_toNat_le.2
  case close =>
    intro a memberA b memberB
    have shareA := List.mem_map_of_mem (f := fun entry : Allocation => entry.replicas.toNat) memberA
    have shareB := List.mem_map_of_mem (f := fun entry : Allocation => entry.replicas.toNat) memberB
    rw [← shares, counted] at shareA shareB
    have sizeA := mem_leveled shareA
    have sizeB := mem_leveled shareB
    omega

theorem raisedAt_allocate (nonempty : clusters ≠ []) (room : replicas < 4294967295) :
    RaisedAt (replicas.toNat % clusters.length) (allocate replicas clusters .uniform)
      (allocate (replicas + 1) clusters .uniform) := by
  have some : 0 < clusters.length := List.length_pos_iff.2 nonempty
  have next : (replicas + 1).toNat = replicas.toNat + 1 := by
    have below : replicas.toNat < 4294967295 := UInt32.lt_iff_toNat_lt.1 room
    rw [UInt32.toNat_add, UInt32.toNat_one]
    omega
  have named := allocate_clusters replicas clusters .uniform
  constructor
  case inside =>
    have length : (allocate replicas clusters .uniform).length = clusters.length := by
      rw [← List.length_map (·.cluster), named]
    rw [length]
    exact Nat.mod_lt _ some
  case names => rw [named, allocate_clusters]
  case shares =>
    have before := uniform_shares replicas nonempty
    have after := uniform_shares (replicas + 1) nonempty
    rw [next, leveled_succ _ some, ← before] at after
    exact after

/-- Evenly every cluster gets the quotient, the leading clusters, as many as the remainder says, one more, and nobody
else; one replica more goes to the cluster whose place is the remainder, and to no other. No step of this leaves its
machine word. -/
theorem even_division_is_balanced (nonempty : clusters ≠ []) (few : clusters.length < 4294967296) :
    checkedAllocate replicas clusters .uniform = .ok (allocate replicas clusters .uniform) ∧
    SharedEvenly replicas clusters (allocate replicas clusters .uniform) ∧
    (replicas < 4294967295 → RaisedAt (replicas.toNat % clusters.length) (allocate replicas clusters .uniform)
      (allocate (replicas + 1) clusters .uniform)) :=
  ⟨checkedAllocate_ok replicas few .uniform, sharedEvenly_allocate replicas nonempty,
    raisedAt_allocate replicas nonempty⟩

/-- The largest word is reached by the replica that completes a round. -/
theorem even_division_is_balanced_up_to_largest :
    let entries := allocate 4294967294 ["a", "b", "a"] .uniform
    ["a", "b", "a"] ≠ [] ∧ ["a", "b", "a"].length < 4294967296 ∧ (4294967294 : UInt32) < 4294967295 ∧
      checkedAllocate 4294967294 ["a", "b", "a"] .uniform = .ok entries ∧
      SharedEvenly 4294967294 ["a", "b", "a"] entries ∧
      RaisedAt 2 entries (allocate 4294967295 ["a", "b", "a"] .uniform) ∧
      entries.map (·.replicas) = [1431655765, 1431655765, 1431655764] := by
  intro entries
  have nonempty : ["a", "b", "a"] ≠ [] := by decide
  have few : ["a", "b", "a"].length < 4294967296 := by decide
  have room : (4294967294 : UInt32) < 4294967295 := by decide
  obtain ⟨checked, shared, raised⟩ := even_division_is_balanced 4294967294 nonempty few
  have replicas : entries.map (·.replicas) = [1431655765, 1431655765, 1431655764] := by decide
  exact ⟨nonempty, few, room, checked, shared, raised room, replicas⟩

end ReplicaAtlas.Allocation
