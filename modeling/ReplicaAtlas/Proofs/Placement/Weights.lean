import Mathlib.Data.List.Induction
import ReplicaAtlas.Table
import ReplicaAtlas.Simulation

/-!
Which entry of a rule weighs a cluster. The entries are gone through in their order, and each of them writes its weight
under all names that it lists, so the last entry that lists a name settles its weight. No weight at all is left just
when no entry lists any name, and then replicas are divided evenly.
-/
namespace ReplicaAtlas

theorem Table.isEmpty_iff {α : Type} {table : Table α} : table.isEmpty = true ↔ ∀ key, table.get? key = none := by
  rw [isEmpty, List.isEmpty_iff]
  constructor
  · intro blank key
    rw [get?, blank]
    rfl
  · intro unmapped
    refine List.eq_nil_iff_forall_not_mem.2 fun ⟨key, value⟩ member => ?_
    have mapped := (table.get?_eq_some_iff key value).2 member
    rw [unmapped key] at mapped
    cases mapped

theorem AllocationMode.divided_eq_uniform_iff {weights : Table UInt32} :
    AllocationMode.divided weights = .uniform ↔ weights.isEmpty = true := by
  rw [AllocationMode.divided]
  split
  case isTrue blank => exact iff_of_true rfl blank
  case isFalse weighted => exact iff_of_false nofun weighted

namespace WeightEntry

theorem get?_insert_all (names : List String) (weight : UInt32) (table : Table UInt32) (name : String) :
    (names.foldl (fun table name => table.insert name weight) table).get? name =
      if name ∈ names then some weight else table.get? name := by
  induction names generalizing table with
  | nil => rfl
  | cons first names ih =>
    rw [List.foldl_cons, ih, Table.get?_insert]
    by_cases later : name ∈ names
    · simp [later]
    · by_cases same : name = first <;> simp [later, same]

end WeightEntry

namespace PlacementRule

/-- The entry names the cluster, and no entry after it does. -/
def LastNaming (rule : PlacementRule) (name : String) (entry : WeightEntry) : Prop :=
  ∃ before after, rule.weightEntries = before ++ entry :: after ∧ name ∈ entry.clusters ∧
    ∀ later ∈ after, name ∉ later.clusters

def NamesNobody (rule : PlacementRule) : Prop := ∀ entry ∈ rule.weightEntries, entry.clusters = []

structure WeighsByLastNaming (rule : PlacementRule) : Prop where
  weighed : ∀ name weight, rule.staticWeights.get? name = some weight ↔
    ∃ entry, rule.LastNaming name entry ∧ entry.weight = weight
  unweighed : ∀ name, rule.staticWeights.get? name = none ↔ ∀ entry ∈ rule.weightEntries, name ∉ entry.clusters
  weightless : rule.staticWeights.isEmpty = true ↔ rule.NamesNobody
  even : AllocationMode.divided rule.staticWeights = .uniform ↔ rule.NamesNobody
  simulated : Simulation.mode? Strategy.divided.name rule.staticWeights = some .uniform ↔ rule.NamesNobody

/-- From the end of the list, the first entry that names a cluster weighs it. -/
theorem get?_staticWeights (rule : PlacementRule) (name : String) :
    rule.staticWeights.get? name = (rule.weightEntries.reverse.find? (name ∈ ·.clusters)).map (·.weight) := by
  rw [staticWeights]
  induction rule.weightEntries using List.reverseRecOn with
  | nil => rfl
  | append_singleton entries last ih =>
    rw [List.foldl_append, List.foldl_cons, List.foldl_nil, WeightEntry.get?_insert_all, ih, List.reverse_append,
      List.reverse_singleton, List.singleton_append, List.find?_cons]
    by_cases named : name ∈ last.clusters <;> simp [named]

theorem find?_reverse_eq_some_iff {rule : PlacementRule} {name : String} {entry : WeightEntry} :
    rule.weightEntries.reverse.find? (name ∈ ·.clusters) = some entry ↔ rule.LastNaming name entry := by
  simp only [List.find?_eq_some_iff_append, decide_eq_true_eq, Bool.not_eq_true', decide_eq_false_iff_not]
  constructor
  · rintro ⟨named, after, before, split, unnamed⟩
    refine ⟨before.reverse, after.reverse, ?_, named, fun later member => unnamed later (List.mem_reverse.1 member)⟩
    rw [← List.reverse_reverse rule.weightEntries, split]
    simp
  · rintro ⟨before, after, split, named, unnamed⟩
    refine ⟨named, after.reverse, before.reverse, ?_, fun later member => unnamed later (List.mem_reverse.1 member)⟩
    rw [split]
    simp

theorem get?_staticWeights_eq_none_iff {rule : PlacementRule} {name : String} :
    rule.staticWeights.get? name = none ↔ ∀ entry ∈ rule.weightEntries, name ∉ entry.clusters := by
  simp [get?_staticWeights]

theorem isEmpty_staticWeights_iff {rule : PlacementRule} :
    rule.staticWeights.isEmpty = true ↔ rule.NamesNobody := by
  simp only [Table.isEmpty_iff, get?_staticWeights_eq_none_iff, NamesNobody, List.eq_nil_iff_forall_not_mem]
  constructor
  · intro unnamed entry member name
    exact unnamed name entry member
  · intro nobody name entry member
    exact nobody entry member name

/-- The last entry that names a cluster weighs it, wherever and however often it does so. -/
theorem weights_go_by_last_naming (rule : PlacementRule) : rule.WeighsByLastNaming where
  weighed name weight := by
    rw [get?_staticWeights, Option.map_eq_some_iff]
    simp only [find?_reverse_eq_some_iff]
  unweighed _ := get?_staticWeights_eq_none_iff
  weightless := isEmpty_staticWeights_iff
  even := AllocationMode.divided_eq_uniform_iff.trans isEmpty_staticWeights_iff
  simulated := by
    have selected : Simulation.mode? Strategy.divided.name rule.staticWeights =
        some (.divided rule.staticWeights) := rfl
    rw [selected, Option.some.injEq, AllocationMode.divided_eq_uniform_iff, isEmpty_staticWeights_iff]

example : (staticWeights ⟨none, none, some ⟨"", some [⟨["west", "east"], 5⟩, ⟨["east", "east"], 0⟩]⟩⟩).entries =
    [("east", 0), ("west", 5)] := by
  decide

end PlacementRule

end ReplicaAtlas
