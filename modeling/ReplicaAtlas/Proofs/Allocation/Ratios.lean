import Mathlib.Data.List.OfFn
import Mathlib.Data.List.FinRange
import ReplicaAtlas.Proofs.Allocation.Even
import ReplicaAtlas.Proofs.Allocation.Shares

/-!
What a division by weight depends on. Only the ratios of the weights count, so all of them may be multiplied; and of
the places of the clusters only the last one counts, so the clusters before it may change places and take their shares
along. Clusters of one weight have the same share but for the last, which alone makes up for all rounding, so that an
even division agrees with this only if there is nothing to round.
-/
namespace ReplicaAtlas

namespace Entries

theorem find?_map {α β : Type} (f : α → β) (key : String) (entries : List (String × α)) :
    find? key (entries.map fun e => (e.1, f e.2)) = (find? key entries).map f := by
  induction entries with
  | nil => rfl
  | cons head rest ih =>
    obtain ⟨k, v⟩ := head
    by_cases same : key = k
    · simp [find?, same]
    · simp [find?, same, ih]

end Entries

namespace Allocation

def scale (factor : Nat) (weights : Table UInt32) : Table UInt32 where
  entries := weights.entries.map fun e => (e.1, (factor * e.2.toNat).toUInt32)
  ascending := by
    rw [Entries.Ascending, List.pairwise_map]
    exact weights.ascending

def handed (entries : List Allocation) : List (String × UInt32) :=
  entries.map fun entry => (entry.cluster, entry.replicas)

def Scalable (factor : Nat) (weights : Table UInt32) (cluster : String) : Prop :=
  ∃ weight, weights.get? cluster = some weight ∧ factor * weight.toNat < 4294967296

/-- How clusters of one weight share replicas by weight, and when they would share them evenly just so. -/
structure SharedAlike (replicas : UInt32) (clusters : List String) (entries : List Allocation) : Prop where
  shares : entries.map (·.replicas.toNat) =
    List.replicate (clusters.length - 1) (replicas.toNat / clusters.length) ++
      [replicas.toNat / clusters.length + replicas.toNat % clusters.length]
  even : handed entries = handed (allocate replicas clusters .uniform) ↔ clusters.length ∣ replicas.toNat

variable {factor : Nat} {weights : Table UInt32}

theorem get?_scale (factor : Nat) (weights : Table UInt32) (cluster : String) :
    (scale factor weights).get? cluster =
      (weights.get? cluster).map fun weight => (factor * weight.toNat).toUInt32 :=
  Entries.find?_map (fun weight : UInt32 => (factor * weight.toNat).toUInt32) cluster weights.entries

theorem weightOf_scale {cluster : String} (scalable : Scalable factor weights cluster) :
    (weightOf (scale factor weights) cluster).toNat = factor * (weightOf weights cluster).toNat := by
  obtain ⟨weight, mapped, fits⟩ := scalable
  rw [weightOf, weightOf, get?_scale, mapped]
  exact Word.toNat_toUInt32 fits

theorem totalWeight_scale {clusters : List String}
    (scalable : ∀ cluster ∈ clusters, Scalable factor weights cluster) :
    totalWeight (scale factor weights) clusters = factor * totalWeight weights clusters := by
  induction clusters with
  | nil => rfl
  | cons cluster rest ih =>
    have first := scalable cluster List.mem_cons_self
    have others := ih fun other member => scalable other (List.mem_cons_of_mem _ member)
    rw [totalWeight_cons, totalWeight_cons, weightOf_scale first, others, Nat.mul_add]

theorem share_scale (replicas weight total : Nat) (positive : 1 ≤ factor) :
    share replicas (factor * weight) (factor * total) = share replicas weight total := by
  rw [share_eq_div, share_eq_div, Nat.mul_left_comm, Nat.mul_div_mul_left _ _ positive]

theorem handed_weightedFrom_scale (replicas : UInt32) (total given : Nat) (positive : 1 ≤ factor)
    {clusters : List String} (scalable : ∀ cluster ∈ clusters, Scalable factor weights cluster) :
    handed (weightedFrom replicas (scale factor weights) (factor * total) given clusters) =
      handed (weightedFrom replicas weights total given clusters) := by
  induction clusters generalizing given with
  | nil => rfl
  | cons cluster rest ih =>
    have first := weightOf_scale (scalable cluster List.mem_cons_self)
    have others := fun given => ih given fun other member => scalable other (List.mem_cons_of_mem _ member)
    simp only [weightedFrom, first, share_scale _ _ _ positive]
    exact congrArg (_ :: ·) (others _)

theorem handed_weighted_scale (replicas : UInt32) (positive : 1 ≤ factor) {clusters : List String}
    (scalable : ∀ cluster ∈ clusters, Scalable factor weights cluster) :
    handed (allocate replicas clusters (.weighted (scale factor weights))) =
      handed (allocate replicas clusters (.weighted weights)) := by
  rw [allocate, weighted, totalWeight_scale scalable]
  exact handed_weightedFrom_scale replicas _ 0 positive scalable

theorem divided_of_mapped {cluster : String} {weight : UInt32} (mapped : weights.get? cluster = some weight) :
    AllocationMode.divided weights = .weighted weights := by
  have some : weights.isEmpty = false := by
    rw [Table.isEmpty, List.isEmpty_eq_false_iff]
    exact List.ne_nil_of_mem ((weights.get?_eq_some_iff cluster weight).1 mapped)
  rw [AllocationMode.divided, some]
  rfl

theorem foldr_add_perm {α : Type} (size : α → Nat) {items others : List α} (same : items.Perm others) :
    items.foldr (fun item n => size item + n) 0 = others.foldr (fun item n => size item + n) 0 := by
  induction same with
  | nil => rfl
  | cons item _ ih => exact congrArg (size item + ·) ih
  | swap first second rest => exact Nat.add_left_comm ..
  | trans _ _ before after => exact before.trans after

theorem allocate_weighted_perm (replicas : UInt32) (weights : Table UInt32) {front others : List String}
    (same : others.Perm front) (last : String) :
    allocate replicas (others ++ [last]) (.weighted weights) =
      others.map (rounded replicas weights (totalWeight weights (front ++ [last]))) ++
        [⟨last, (left replicas weights front last).toUInt32,
          s!"divided by weight {weightOf weights last}/{totalWeight weights (front ++ [last])}"⟩] := by
  have total : totalWeight weights (others ++ [last]) = totalWeight weights (front ++ [last]) :=
    foldr_add_perm _ (same.append_right [last])
  have given : roundedTotal replicas.toNat weights (totalWeight weights (front ++ [last])) others =
      roundedTotal replicas.toNat weights (totalWeight weights (front ++ [last])) front := foldr_add_perm _ same
  rw [allocate_weighted_concat, left, total, given, left]

theorem totalWeight_of_same {weight : UInt32} {clusters : List String}
    (same : ∀ cluster ∈ clusters, weightOf weights cluster = weight) :
    totalWeight weights clusters = clusters.length * weight.toNat := by
  induction clusters with
  | nil => simp
  | cons cluster rest ih =>
    have others := ih fun other member => same other (List.mem_cons_of_mem _ member)
    rw [totalWeight_cons, same cluster List.mem_cons_self, others, List.length_cons, Nat.succ_mul, Nat.add_comm]

theorem share_of_same {count weight : Nat} (replicas : Nat) (positive : 0 < weight) :
    share replicas weight (count * weight) = replicas / count := by
  rw [share_eq_div, Nat.mul_div_mul_right _ _ positive]

theorem roundedTotal_of_same {weight : UInt32} {clusters : List String} (replicas count : Nat)
    (positive : 0 < weight.toNat) (same : ∀ cluster ∈ clusters, weightOf weights cluster = weight) :
    roundedTotal replicas weights (count * weight.toNat) clusters = clusters.length * (replicas / count) := by
  induction clusters with
  | nil => simp [roundedTotal]
  | cons cluster rest ih =>
    have others := ih fun other member => same other (List.mem_cons_of_mem _ member)
    rw [roundedTotal_cons, same cluster List.mem_cons_self, share_of_same replicas positive, others, List.length_cons,
      Nat.succ_mul, Nat.add_comm]

theorem shares_of_same {weight : UInt32} {front : List String} {last : String} (replicas : UInt32)
    (positive : 0 < weight) (same : ∀ cluster ∈ front ++ [last], weightOf weights cluster = weight) :
    shares (allocate replicas (front ++ [last]) (.weighted weights)) =
      List.replicate front.length (replicas.toNat / (front.length + 1)) ++
        [replicas.toNat / (front.length + 1) + replicas.toNat % (front.length + 1)] := by
  have some : 0 < weight.toNat := UInt32.lt_iff_toNat_lt.1 positive
  have others : ∀ cluster ∈ front, weightOf weights cluster = weight := fun cluster member =>
    same cluster (List.mem_append_left [last] member)
  have total : totalWeight weights (front ++ [last]) = (front.length + 1) * weight.toNat := by
    rw [totalWeight_of_same same, List.length_append, List.length_singleton]
  have rest : left replicas weights front last =
      replicas.toNat / (front.length + 1) + replicas.toNat % (front.length + 1) := by
    have parts := Nat.div_add_mod replicas.toNat (front.length + 1)
    rw [Nat.succ_mul, Nat.add_assoc] at parts
    rw [left, total, roundedTotal_of_same _ _ some others]
    exact Nat.sub_eq_of_eq_add' parts.symm
  rw [shares, allocate_weighted_concat, List.map_append, List.map_singleton, List.map_map,
    Word.toNat_toUInt32 (left_lt replicas weights front last), rest]
  refine congrArg (· ++ _) (List.eq_replicate_iff.2 ⟨List.length_map _, ?_⟩)
  intro size member
  obtain ⟨cluster, inside, rfl⟩ := List.mem_map.1 member
  rw [Function.comp_apply, rounded_fits replicas weights front last inside, others cluster inside, total,
    share_of_same _ some]

/-- The clusters in front take the remainder in one of the two ways, the last one in the other. -/
theorem leveled_eq_iff (base : Nat) {extra count : Nat} (below : extra < count + 1) :
    List.replicate count base ++ [base + extra] = leveled base extra (count + 1) ↔ extra = 0 := by
  constructor
  · intro same
    by_contra some
    rw [leveled_cons, if_pos (Nat.pos_of_ne_zero some)] at same
    cases count with
    | zero => exact some (Nat.lt_one_iff.1 below)
    | succ count =>
      rw [List.replicate_succ, List.cons_append] at same
      exact Nat.succ_ne_self base (List.cons.inj same).1.symm
  · rintro rfl
    simp [leveled, List.replicate_succ']

theorem handed_eq_iff {entries others : List Allocation}
    (names : entries.map (·.cluster) = others.map (·.cluster)) :
    handed entries = handed others ↔ shares entries = shares others := by
  have counted (entries : List Allocation) :
      shares entries = ((handed entries).map Prod.snd).map UInt32.toNat := by
    simp [shares, handed, Function.comp_def]
  have paired (entries : List Allocation) :
      handed entries = (entries.map (·.cluster)).zip (entries.map (·.replicas)) := List.zip_map'.symm
  constructor
  · intro same
    rw [counted, counted, same]
  · intro same
    have replicas : entries.map (·.replicas) = others.map (·.replicas) := by
      refine List.map_injective_iff.2 (fun _ _ => UInt32.toNat_inj.1) ?_
      rw [List.map_map, List.map_map]
      exact same
    rw [paired, paired, names, replicas]

theorem sharedAlike_allocate {weight : UInt32} {front : List String} {last : String} (replicas : UInt32)
    (positive : 0 < weight) (same : ∀ cluster ∈ front ++ [last], weightOf weights cluster = weight) :
    SharedAlike replicas (front ++ [last]) (allocate replicas (front ++ [last]) (.weighted weights)) := by
  have length : (front ++ [last]).length = front.length + 1 := by
    rw [List.length_append, List.length_singleton]
  have byWeight := shares_of_same replicas positive same
  constructor
  case shares =>
    rw [length]
    exact byWeight
  case even =>
    have nonempty : front ++ [last] ≠ [] := by simp
    have evenly := uniform_shares replicas nonempty
    rw [handed_eq_iff (by rw [allocate_clusters, allocate_clusters]), byWeight, evenly, length,
      leveled_eq_iff _ (Nat.mod_lt _ (Nat.succ_pos _)), Nat.dvd_iff_mod_eq_zero]

/-- By weight shares depend on the ratios of the weights, and on the place of the last cluster only. Clusters of one
positive weight share alike but for the last one, which takes the remainder, so that to share evenly is the same just
where nothing remains. -/
theorem shares_go_by_ratios (replicas : UInt32) (weights : Table UInt32) (front : List String) (last : String) :
    (∀ factor, 1 ≤ factor → (∀ cluster ∈ front ++ [last], Scalable factor weights cluster) →
      handed (allocate replicas (front ++ [last]) (.weighted (scale factor weights))) =
        handed (allocate replicas (front ++ [last]) (.weighted weights)) ∧
      handed (allocate replicas (front ++ [last]) (.divided (scale factor weights))) =
        handed (allocate replicas (front ++ [last]) (.divided weights))) ∧
    (∃ (entries : Fin front.length → Allocation) (rest : Allocation), ∀ places : Equiv.Perm (Fin front.length),
      allocate replicas (List.ofFn (fun place => front[places place]) ++ [last]) (.weighted weights) =
        List.ofFn (fun place => entries (places place)) ++ [rest]) ∧
    ∀ weight, 0 < weight → (∀ cluster ∈ front ++ [last], weightOf weights cluster = weight) →
      SharedAlike replicas (front ++ [last]) (allocate replicas (front ++ [last]) (.weighted weights)) := by
  refine ⟨?_, ?_, fun weight positive same => sharedAlike_allocate replicas positive same⟩
  · intro factor positive scalable
    have scaled := handed_weighted_scale replicas positive scalable
    obtain ⟨weight, mapped, -⟩ := scalable last (by simp)
    have scaledMapped := (get?_scale factor weights last).trans (congrArg (Option.map _) mapped)
    refine ⟨scaled, ?_⟩
    rw [divided_of_mapped mapped, divided_of_mapped scaledMapped, scaled]
  · refine ⟨fun place => rounded replicas weights (totalWeight weights (front ++ [last])) front[place],
      ⟨last, (left replicas weights front last).toUInt32,
        s!"divided by weight {weightOf weights last}/{totalWeight weights (front ++ [last])}"⟩, ?_⟩
    intro places
    have same : (List.ofFn fun place => front[places place]).Perm front := by
      have kept := Equiv.Perm.ofFn_comp_perm places front.get
      rw [List.ofFn_get] at kept
      exact kept
    rw [allocate_weighted_perm replicas weights same last, List.map_ofFn]
    rfl

def ratioWeights : Table UInt32 := ((Table.empty.insert "a" 2).insert "b" 1).insert "c" 4294967

theorem shares_go_by_ratios_of_thousandfold :
    (∀ cluster ∈ ["c", "a", "a"] ++ ["b"], Scalable 1000 ratioWeights cluster) ∧
      handed (allocate 4294967295 (["c", "a", "a"] ++ ["b"]) (.weighted (scale 1000 ratioWeights))) =
        handed (allocate 4294967295 (["c", "a", "a"] ++ ["b"]) (.weighted ratioWeights)) ∧
      (∀ cluster ∈ ["x", "y"] ++ ["x"], weightOf ratioWeights cluster = 1) ∧
      SharedAlike 7 (["x", "y"] ++ ["x"]) (allocate 7 (["x", "y"] ++ ["x"]) (.weighted ratioWeights)) ∧
      (allocate 7 (["x", "y"] ++ ["x"]) (.weighted ratioWeights)).map (·.replicas) = [2, 2, 3] := by
  have scalable : ∀ cluster ∈ ["c", "a", "a"] ++ ["b"], Scalable 1000 ratioWeights cluster := by
    intro cluster member
    simp only [List.cons_append, List.nil_append, List.mem_cons, List.not_mem_nil, or_false] at member
    rcases member with rfl | rfl | rfl | rfl
    · exact ⟨4294967, by decide, by decide⟩
    · exact ⟨2, by decide, by decide⟩
    · exact ⟨2, by decide, by decide⟩
    · exact ⟨1, by decide, by decide⟩
  have alike : ∀ cluster ∈ ["x", "y"] ++ ["x"], weightOf ratioWeights cluster = 1 := by decide
  have scaled := (shares_go_by_ratios 4294967295 ratioWeights ["c", "a", "a"] "b").1 1000 (by decide) scalable
  have shared := (shares_go_by_ratios 7 ratioWeights ["x", "y"] "x").2.2 1 (by decide) alike
  exact ⟨scalable, scaled.1, alike, shared, by decide⟩

end Allocation

end ReplicaAtlas
