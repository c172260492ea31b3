import Mathlib.Data.List.Pairwise
import ReplicaAtlas.Proofs.Table.Listing

/-!
The first of the entries that pass a test. In a list in a strict order it is the only one that passes with nothing
that passes before it, so what is found is settled by what the list has and not by how the list came about.
-/
namespace ReplicaAtlas

namespace Entries
variable {α : Type} {precedes : α → α → Prop} {entries : List α} {test : α → Bool} {first : α}

private theorem not_precedes_found (ordered : entries.Pairwise precedes)
    (asymmetric : ∀ a b, precedes a b → ¬ precedes b a) (found : entries.find? test = some first) :
    ∀ other ∈ entries, test other = true → ¬ precedes other first := by
  obtain ⟨-, before, after, rfl, refused⟩ := List.find?_eq_some_iff_append.1 found
  have followers := (List.pairwise_cons.1 (List.pairwise_append.1 ordered).2.1).1
  intro other member passes
  rcases List.mem_append.1 member with earlier | later
  · have fails := refused other earlier
    rw [passes] at fails
    exact absurd fails (by decide)
  · rcases List.mem_cons.1 later with rfl | later
    · intro self
      exact asymmetric other other self self
    · exact asymmetric first other (followers other later)

theorem find?_eq_some_iff_first (ordered : entries.Pairwise precedes)
    (asymmetric : ∀ a b, precedes a b → ¬ precedes b a) :
    entries.find? test = some first ↔
      (first ∈ entries ∧ test first = true) ∧ ∀ other ∈ entries, test other = true → ¬ precedes other first := by
  constructor
  · intro found
    exact ⟨⟨List.mem_of_find?_eq_some found, List.find?_some found⟩,
      not_precedes_found ordered asymmetric found⟩
  · rintro ⟨⟨member, passes⟩, least⟩
    have isFound : (entries.find? test).isSome = true := List.find?_isSome.2 ⟨first, member, passes⟩
    obtain ⟨other, found⟩ := Option.isSome_iff_exists.1 isFound
    have otherMember := List.mem_of_find?_eq_some found
    have either : entries.Pairwise fun a b => precedes a b ∨ precedes b a := ordered.imp .inl
    have symmetric : Std.Symm fun a b => precedes a b ∨ precedes b a := ⟨fun _ _ => Or.symm⟩
    -- Of two different entries that pass, one precedes the other, which is then not the first.
    have same : other = first := by
      by_contra distinct
      rcases either.forall otherMember member distinct with before | after
      · exact least other otherMember (List.find?_some found) before
      · exact not_precedes_found ordered asymmetric found first member passes after
    rw [found, same]

end Entries

namespace Table
variable {α : Type} {table : Table α}

/-- What is found in a listing stands under the least of the keys whose values pass. -/
theorem find?_valuesWhere_eq_some_iff {test : String → Bool} {passes : α → Bool} {value : α} :
    (table.valuesWhere test).find? passes = some value ↔
      ∃ key, (table.get? key = some value ∧ test key = true ∧ passes value = true) ∧
        ∀ other found, table.get? other = some found → test other = true → passes found = true → ¬ other < key := by
  have ordered : (table.entries.filter fun e => test e.1).Pairwise fun a b => a.1 < b.1 :=
    List.Pairwise.filter _ table.ascending
  have asymmetric (a b : String × α) (less : a.1 < b.1) : ¬ b.1 < a.1 := String.lt_asymm less
  rw [valuesWhere, List.find?_map, Option.map_eq_some_iff]
  simp only [Entries.find?_eq_some_iff_first ordered asymmetric, List.mem_filter, Function.comp_apply,
    Prod.exists, Prod.forall, ← get?_eq_some_iff, and_imp]
  constructor
  · rintro ⟨key, _, ⟨⟨⟨stands, shown⟩, passed⟩, least⟩, rfl⟩
    exact ⟨key, ⟨stands, shown, passed⟩, least⟩
  · rintro ⟨key, ⟨stands, shown, passed⟩, least⟩
    exact ⟨key, value, ⟨⟨⟨stands, shown⟩, passed⟩, least⟩, rfl⟩

end Table

end ReplicaAtlas
