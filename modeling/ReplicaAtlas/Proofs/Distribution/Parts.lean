import Mathlib.Data.List.Flatten
import ReplicaAtlas.Proofs.Distribution.Exact
import ReplicaAtlas.Proofs.Groups

/-!
Distributions of parts. Whatever the parts of a list of bindings are, their distributions add up to the one of the
whole list, whose sums may stop where those of the parts do not. Parted by namespace, the distribution of a part
is moreover what the one of the whole list tells in the row of the namespace.
-/
namespace ReplicaAtlas

namespace Tally

/-- What the parts tell, added up, where the sums of replicas stop at the largest word. -/
structure Sums (parts : List Tally) (whole : Tally) : Prop where
  workloads : whole.workloads = (parts.map (·.workloads)).sum
  planned : whole.planned.toNat = min (Replicas.total (parts.map (·.planned))) 4294967295
  ready : whole.ready.toNat = min (Replicas.total (parts.map (·.ready))) 4294967295

theorem sums_of {α : Type} (parts : List α) (workloads : α → Nat) (shares : α → List Share) :
    Sums (parts.map fun part => of (workloads part) (shares part))
      (of (parts.map workloads).sum (parts.flatMap shares)) where
  workloads := by
    rw [List.map_map]
    rfl
  planned := by
    have stopped := Replicas.toNat_capped_flatMap parts fun part => (shares part).map (·.planned)
    rw [List.map_map, of, Share.plannedTotal, List.map_flatMap]
    exact stopped
  ready := by
    have stopped := Replicas.toNat_capped_flatMap parts fun part => (shares part).map (·.ready)
    rw [List.map_map, of, Share.readyTotal, List.map_flatMap]
    exact stopped

section Present
variable {α : Type} (parts : List α) (row? : α → Option Tally)

/-- A row that is not there adds nothing. -/
theorem sum_present (count : Tally → Nat) (nothing : count .zero = 0) :
    ((parts.filterMap row?).map count).sum = ((parts.map fun part => (row? part).getD .zero).map count).sum := by
  induction parts with
  | nil => rfl
  | cons part parts ih =>
    rw [List.filterMap_cons, List.map_cons, List.map_cons, List.sum_cons, ← ih]
    cases row? part with
    | none => rw [Option.getD_none, nothing, Nat.zero_add]
    | some row => rw [Option.getD_some, List.map_cons, List.sum_cons]

theorem total_present (replicas : Tally → UInt32) (nothing : replicas .zero = 0) :
    Replicas.total ((parts.filterMap row?).map replicas) =
      Replicas.total ((parts.map fun part => (row? part).getD .zero).map replicas) := by
  have none : (replicas .zero).toNat = 0 := by rw [nothing, UInt32.toNat_zero]
  have sums := sum_present parts row? (fun row => (replicas row).toNat) none
  rw [Replicas.total, Replicas.total, List.map_map, List.map_map]
  exact sums

theorem Sums.of_present {whole : Tally} (sums : Sums (parts.map fun part => (row? part).getD .zero) whole) :
    Sums (parts.filterMap row?) whole where
  workloads := by rw [sums.workloads, sum_present parts row? _ rfl]
  planned := by rw [sums.planned, total_present parts row? _ rfl]
  ready := by rw [sums.ready, total_present parts row? _ rfl]

end Present

end Tally

namespace Distribution

structure AddsUp (parts : List Distribution) (whole : Distribution) : Prop where
  totals : Tally.Sums (parts.map (·.totals)) whole.totals
  scheduled : whole.scheduled = (parts.map (·.scheduled)).sum
  pending : whole.pending = (parts.map (·.pending)).sum
  failed : whole.failed = (parts.map (·.failed)).sum
  clusterNames : ∀ name, name ∈ whole.clusters.keys ↔ ∃ part ∈ parts, name ∈ part.clusters.keys
  clusterRows : ∀ row ∈ whole.clusters.entries, Tally.Sums (parts.filterMap (·.clusters.get? row.1)) row.2

section Parts
variable {α : Type} (parts : List α) (bindings : α → List Binding)

theorem sharesOf_flatMap : sharesOf (parts.flatMap bindings) = parts.flatMap fun part => sharesOf (bindings part) :=
  List.flatMap_assoc

theorem totals_ofParts :
    Tally.Sums (parts.map fun part => (ofBindings (bindings part)).totals)
      (ofBindings (parts.flatMap bindings)).totals := by
  have own (part : α) : (ofBindings (bindings part)).totals =
      .of (bindings part).length (sharesOf (bindings part)) := (accounts_ofBindings _).totals
  rw [(accounts_ofBindings _).totals, List.length_flatMap, sharesOf_flatMap, List.map_congr_left fun part _ => own part]
  exact Tally.sums_of parts (fun part => (bindings part).length) fun part => sharesOf (bindings part)

theorem phaseCount_ofParts (phase : Phase) :
    (ofBindings (parts.flatMap bindings)).phaseCount phase =
      (parts.map fun part => (ofBindings (bindings part)).phaseCount phase).sum := by
  have own (part : α) : (ofBindings (bindings part)).phaseCount phase =
      (bindings part).countP (·.phase = phase) := (accounts_ofBindings _).phases phase
  rw [(accounts_ofBindings _).phases, List.countP_flatMap, List.map_congr_left fun part _ => own part]
  rfl

theorem clusterRow_ofParts (name : String) :
    Tally.Sums (parts.map fun part => ((ofBindings (bindings part)).clusters.get? name).getD .zero)
      (((ofBindings (parts.flatMap bindings)).clusters.get? name).getD .zero) := by
  have own (part : α) : ((ofBindings (bindings part)).clusters.get? name).getD .zero =
      .of (Share.inCluster name (sharesOf (bindings part))).length
        (Share.inCluster name (sharesOf (bindings part))) := (accounts_ofBindings _).clusterRow name
  have split : Share.inCluster name (sharesOf (parts.flatMap bindings)) =
      parts.flatMap fun part => Share.inCluster name (sharesOf (bindings part)) := by
    rw [sharesOf_flatMap]
    exact List.filter_flatMap
  rw [(accounts_ofBindings _).clusterRow, split, List.length_flatMap, List.map_congr_left fun part _ => own part]
  exact Tally.sums_of parts (fun part => (Share.inCluster name (sharesOf (bindings part))).length)
    fun part => Share.inCluster name (sharesOf (bindings part))

theorem addsUp_parts :
    AddsUp (parts.map fun part => ofBindings (bindings part)) (ofBindings (parts.flatMap bindings)) where
  totals := by
    rw [List.map_map]
    exact totals_ofParts parts bindings
  scheduled := by
    rw [List.map_map]
    exact phaseCount_ofParts parts bindings .scheduled
  pending := by
    rw [List.map_map]
    exact phaseCount_ofParts parts bindings .pending
  failed := by
    rw [List.map_map]
    exact phaseCount_ofParts parts bindings .failed
  clusterNames name := by
    simp only [mem_clusters_iff, List.mem_flatMap, List.mem_map]
    constructor
    · rintro ⟨b, ⟨part, member, bound⟩, aimed⟩
      exact ⟨_, ⟨part, member, rfl⟩, (mem_clusters_iff _ name).2 ⟨b, bound, aimed⟩⟩
    · rintro ⟨_, ⟨part, member, rfl⟩, occurs⟩
      obtain ⟨b, bound, aimed⟩ := (mem_clusters_iff _ name).1 occurs
      exact ⟨b, ⟨part, member, bound⟩, aimed⟩
  clusterRows row member := by
    have sums := clusterRow_ofParts parts bindings row.1
    rw [(Table.get?_eq_some_iff _ row.1 row.2).2 member, Option.getD_some] at sums
    rw [List.filterMap_map]
    exact sums.of_present parts _

end Parts

theorem flatMap_inSpace {spaces : List String} (distinct : spaces.Nodup) {bindings : List Binding}
    (covers : ∀ b ∈ bindings, b.space ∈ spaces) :
    (spaces.flatMap fun space => inSpace space bindings).Perm bindings := by
  have picked := flatMap_picked_perm distinct Binding.space bindings
  have all : bindings.filter (·.space ∈ spaces) = bindings := by
    apply List.filter_eq_self.2
    intro b bound
    exact decide_eq_true (covers b bound)
  rw [all] at picked
  exact picked

theorem inSpace_shares (space : String) (b : Binding) :
    Share.inSpace space b.shares = if b.space = space then b.shares else [] := by
  split
  case isTrue here =>
    refine List.filter_eq_self.2 fun share member => ?_
    obtain ⟨target, -, rfl⟩ := List.mem_map.1 member
    exact decide_eq_true here
  case isFalse elsewhere =>
    refine List.filter_eq_nil_iff.2 fun share member same => elsewhere ?_
    obtain ⟨target, -, rfl⟩ := List.mem_map.1 member
    exact of_decide_eq_true same

theorem sharesOf_inSpace (space : String) (bindings : List Binding) :
    sharesOf (inSpace space bindings) = Share.inSpace space (sharesOf bindings) := by
  induction bindings with
  | nil => rfl
  | cons b bindings ih =>
    have split : Share.inSpace space (sharesOf (b :: bindings)) =
        Share.inSpace space b.shares ++ Share.inSpace space (sharesOf bindings) := List.filter_append ..
    rw [split, ← ih, inSpace_shares, inSpace, List.filter_cons]
    by_cases here : b.space = space
    · rw [if_pos here, if_pos (decide_eq_true here)]
      rfl
    · rw [if_neg here, if_neg (by simpa using here)]
      rfl

/-- The distribution of the bindings of one namespace, or of those without one. -/
def ofSpace (bindings : List Binding) (space : String) : Distribution := ofBindings (inSpace space bindings)

/-- The counts of a namespace stay within their words where those of all bindings do. -/
theorem checkedOfSpace_ok {bindings : List Binding} (few : bindings.length < 4294967296)
    (fewTargets : (bindings.flatMap (·.targets)).length < 4294967296) (space : String) :
    checkedOfBindings (inSpace space bindings) = .ok (ofSpace bindings space) := by
  have some : (inSpace space bindings).Sublist bindings := List.filter_sublist
  have someTargets := some.flatMap (·.targets)
  exact checkedOfBindings_ok (some.length_le.trans_lt few) (someTargets.length_le.trans_lt fewTargets)

/-- What the distribution of a namespace tells is what the one of all bindings tells of the namespace. -/
structure RowOf (whole : Distribution) (space : String) (part : Distribution) : Prop where
  totals : ∀ row, whole.spaces.get? space = some row → part.totals = row
  spaces : part.spaces.entries = ((whole.spaces.get? space).map fun row => (space, row)).toList
  noTotals : part.totals = .zero ↔ whole.spaces.get? space = none
  noSpaces : part.spaces.entries = [] ↔ whole.spaces.get? space = none

theorem totals_ofSpace (bindings : List Binding) (space : String) :
    (ofSpace bindings space).totals = ((ofBindings bindings).spaces.get? space).getD .zero := by
  rw [ofSpace, (accounts_ofBindings _).totals, (accounts_ofBindings bindings).spaceRow, sharesOf_inSpace]

theorem spaces_ofSpace (bindings : List Binding) (space other : String) :
    (ofSpace bindings space).spaces.get? other =
      if other = space then (ofBindings bindings).spaces.get? space else none := by
  rw [ofSpace, (accounts_ofBindings _).spaces, sharesOf_inSpace]
  split
  case isTrue same =>
    have again : inSpace space (inSpace space bindings) = inSpace space bindings := List.filter_filter.trans (by simp [inSpace])
    have sharesAgain : Share.inSpace space (Share.inSpace space (sharesOf bindings)) =
        Share.inSpace space (sharesOf bindings) := List.filter_filter.trans (by simp [Share.inSpace])
    rw [same, again, sharesAgain, (accounts_ofBindings bindings).spaces]
  case isFalse apart =>
    have none : inSpace other (inSpace space bindings) = [] := by
      refine List.filter_eq_nil_iff.2 fun b bound here => apart ?_
      exact (of_decide_eq_true here).symm.trans (of_decide_eq_true (List.mem_filter.1 bound).2)
    rw [none]
    rfl

theorem entries_ofSpace (bindings : List Binding) (space : String) :
    (ofSpace bindings space).spaces.entries =
      (((ofBindings bindings).spaces.get? space).map fun row => (space, row)).toList := by
  have stands := spaces_ofSpace bindings space
  cases found : (ofBindings bindings).spaces.get? space with
  | none =>
    have same : (ofSpace bindings space).spaces = .empty := by
      refine Table.ext_get? fun other => ?_
      rw [stands, found, ite_self, Table.get?_empty]
    rw [same]
    rfl
  | some row =>
    have same : (ofSpace bindings space).spaces = Table.empty.insert space row := by
      refine Table.ext_get? fun other => ?_
      rw [stands, found, Table.get?_insert, Table.get?_empty]
    rw [same]
    rfl

theorem spaces_eq_none_iff (bindings : List Binding) (space : String) :
    (ofBindings bindings).spaces.get? space = none ↔ inSpace space bindings = [] := by
  rw [← Option.not_isSome_iff_eq_none, (accounts_ofBindings bindings).spaces, Tally.isSome_row?, not_not,
    List.length_eq_zero_iff]

theorem totals_eq_zero_iff (bindings : List Binding) : (ofBindings bindings).totals = .zero ↔ bindings = [] := by
  constructor
  · intro zero
    have workloads := congrArg Tally.workloads ((accounts_ofBindings bindings).totals.symm.trans zero)
    exact List.length_eq_zero_iff.1 workloads
  · rintro rfl
    rfl

theorem rowOf_ofSpace (bindings : List Binding) (space : String) :
    RowOf (ofBindings bindings) space (ofSpace bindings space) where
  totals row found := by
    rw [totals_ofSpace, found, Option.getD_some]
  spaces := entries_ofSpace bindings space
  noTotals := (totals_eq_zero_iff _).trans (spaces_eq_none_iff bindings space).symm
  noSpaces := by
    rw [entries_ofSpace, Option.toList_eq_nil_iff, Option.map_eq_none_iff]

theorem addsUp_spaces {spaces : List String} (distinct : spaces.Nodup) {bindings : List Binding}
    (covers : ∀ b ∈ bindings, b.space ∈ spaces) : AddsUp (spaces.map (ofSpace bindings)) (ofBindings bindings) := by
  rw [← ofBindings_perm (flatMap_inSpace distinct covers)]
  exact addsUp_parts spaces fun space => inSpace space bindings

end Distribution

end ReplicaAtlas
