import ReplicaAtlas.Proofs.Store.Import
import ReplicaAtlas.Proofs.Store.Scope

/-!
Which records share a key. A key joins a namespace and a name with a slash, and both may have slashes of their own,
so a namespace may go on with what begins a name elsewhere. To write a record takes away, of the records with
another namespace or name, just those that are blurred with it in this way.
-/
namespace ReplicaAtlas

namespace Shelf

/-- The namespace and the name of a record, where no namespace counts as the empty one. -/
def identity : (shelf : Shelf) → shelf.Record → String × String
  | .bindings, b => (b.space, b.name)
  | .policies _, policy => (policy.spaceText, policy.name)
  | .clusters, c => ("", c.name)

theorem identity_recorded (shelf : Shelf) (record : shelf.Record) :
    shelf.identity (shelf.recorded record) = shelf.identity record := by
  cases shelf with
  | bindings => rfl
  | policies kind => rfl
  | clusters => rfl

end Shelf

theorem Policy.spaceText_normalized (policy : Policy) : policy.normalized.spaceText = policy.spaceText := by
  unfold Policy.spaceText Policy.normalized
  cases policy.space with
  | none => rfl
  | some space =>
    by_cases blank : space = ""
    · subst blank
      rfl
    · simp [Option.filter, blank]

theorem Shelf.identity_normalized (shelf : Shelf) (record : shelf.Record) :
    shelf.identity (shelf.normalized record) = shelf.identity record := by
  cases shelf with
  | bindings => rfl
  | policies kind => exact Prod.ext (Policy.spaceText_normalized record) rfl
  | clusters => rfl

namespace Store

def joined (pair : String × String) : String := pair.1 ++ "/" ++ pair.2

/-- The second namespace is the first one and, behind a slash, the beginning of the first name. -/
def Extends (a b : String × String) : Prop :=
  ∃ middle, b.1 = a.1 ++ "/" ++ middle ∧ a.2 = middle ++ "/" ++ b.2

def Blurred (a b : String × String) : Prop := Extends a b ∨ Extends b a

theorem joined_of_extends {a b : String × String} (longer : Extends a b) : joined a = joined b := by
  obtain ⟨middle, spaces, names⟩ := longer
  rw [joined, joined, spaces, names]
  simp only [String.append_assoc]

/-- Of two spellings of one text the longer namespace holds the slash that ends the shorter one. -/
private theorem eq_or_extends_of_prefix {a b : String × String} {more : List Char}
    (space : b.1.toList = a.1.toList ++ more) (rest : '/' :: a.2.toList = more ++ '/' :: b.2.toList) :
    a = b ∨ Extends a b := by
  cases more with
  | nil =>
    have spaces : a.1 = b.1 := String.toList_inj.1 (by simpa using space.symm)
    have names : a.2 = b.2 := String.toList_inj.1 (List.cons.inj rest).2
    exact .inl (Prod.ext spaces names)
  | cons slash middle =>
    obtain ⟨rfl, name⟩ := List.cons.inj rest
    refine .inr ⟨String.ofList middle, ?_, ?_⟩
    · apply String.toList_inj.1
      rw [toList_slash, String.toList_ofList]
      exact space
    · apply String.toList_inj.1
      rw [toList_slash, String.toList_ofList]
      exact name

theorem joined_eq_iff {a b : String × String} : joined a = joined b ↔ a = b ∨ Blurred a b := by
  constructor
  · intro same
    have lists := congrArg String.toList same
    rw [joined, joined, toList_slash, toList_slash] at lists
    rcases List.append_eq_append_iff.1 lists with ⟨more, space, rest⟩ | ⟨more, space, rest⟩
    · rcases eq_or_extends_of_prefix space rest with equal | longer
      · exact .inl equal
      · exact .inr (.inl longer)
    · rcases eq_or_extends_of_prefix space rest with equal | longer
      · exact .inl equal.symm
      · exact .inr (.inr longer)
  · rintro (rfl | longer | longer)
    · rfl
    · exact joined_of_extends longer
    · exact (joined_of_extends longer).symm

theorem slashes_of_extends {a b : String × String} (longer : Extends a b) :
    ¬ SlashFree b.1 ∧ ¬ SlashFree a.2 := by
  obtain ⟨middle, spaces, names⟩ := longer
  constructor
  · intro free
    apply free
    rw [spaces, toList_slash]
    simp
  · intro free
    apply free
    rw [names, toList_slash]
    simp

/-- It takes a slash in a namespace and one in a name to blur two pairs. -/
theorem slashes_of_blurred {a b : String × String} (blurred : Blurred a b) :
    (¬ SlashFree a.1 ∨ ¬ SlashFree b.1) ∧ (¬ SlashFree a.2 ∨ ¬ SlashFree b.2) := by
  rcases blurred with longer | longer
  · have slashes := slashes_of_extends longer
    exact ⟨.inr slashes.1, .inl slashes.2⟩
  · have slashes := slashes_of_extends longer
    exact ⟨.inl slashes.1, .inr slashes.2⟩

theorem key_eq_joined {shelf : Shelf} (spaced : shelf ≠ .clusters) (record : shelf.Record) :
    shelf.key record = joined (shelf.identity record) := by
  cases shelf with
  | bindings => rfl
  | policies kind => rfl
  | clusters => exact absurd rfl spaced

theorem place_eq_joined {shelf : Shelf} (spaced : shelf ≠ .clusters) (record : shelf.Record) :
    shelf.place record = joined (shelf.identity record) := by
  rw [Shelf.place, key_eq_joined spaced, Shelf.identity_normalized]

/-- A record that other records are written over stays just if none of them has its key. -/
theorem get?_written_over_iff {shelf : Shelf} {table : Table shelf.Record} {key : String} {kept : shelf.Record}
    (stored : table.get? key = some kept) {records : List shelf.Record}
    (apart : ∀ record ∈ records, shelf.identity record ≠ shelf.identity kept) :
    ((records.map shelf.written).foldl (Table.write shelf.recorded) table).get? key = some kept ↔
      ∀ record ∈ records, shelf.place record ≠ key := by
  rw [Table.get?_writes_iff]
  constructor
  · rintro (⟨written, last, rfl⟩ | ⟨elsewhere, -⟩)
    · obtain ⟨record, member, form⟩ := List.mem_map.1 last.mem
      obtain ⟨-, rfl⟩ := Write.put.inj form
      have same : shelf.identity record = shelf.identity (shelf.recorded (shelf.normalized record)) := by
        rw [Shelf.identity_recorded, Shelf.identity_normalized]
      exact absurd same (apart record member)
    · intro record member
      exact elsewhere _ (List.mem_map_of_mem member)
  · intro elsewhere
    refine .inr ⟨fun write member => ?_, stored⟩
    obtain ⟨record, inside, rfl⟩ := List.mem_map.1 member
    exact elsewhere record inside

theorem keeps_iff {operations : List StoreOperation} {shelf : Shelf} (spaced : shelf ≠ .clusters) {key : String}
    {kept : shelf.Record} (stored : ((run operations).table shelf).get? key = some kept)
    {records : List shelf.Record} (apart : ∀ record ∈ records, shelf.identity record ≠ shelf.identity kept) :
    ((records.map shelf.written).foldl (Table.write shelf.recorded) ((run operations).table shelf)).get? key =
        some kept ↔
      ∀ record ∈ records, ¬ Blurred (shelf.identity record) (shelf.identity kept) := by
  have keyed : shelf.key kept = key := keyed_run operations shelf key kept stored
  rw [get?_written_over_iff stored apart, ← keyed]
  refine forall₂_congr fun record member => ?_
  rw [Ne, place_eq_joined spaced, key_eq_joined spaced, joined_eq_iff, or_iff_right (apart record member)]

/-- What becomes of a stored record when records of another namespace or name are put on its shelf. -/
structure LosesOnlyBlurred (s : Store) (shelf : Shelf) (key : String) (kept : shelf.Record) : Prop where
  place : ∀ record, shelf.place record = key ↔ shelf.identity record = shelf.identity kept ∨
    Blurred (shelf.identity record) (shelf.identity kept)
  put : ∀ record, shelf.identity record ≠ shelf.identity kept →
    (((s.put shelf record).table shelf).get? key = some kept ↔
      ¬ Blurred (shelf.identity record) (shelf.identity kept))
  imported : ∀ snapshot : Snapshot,
    (∀ record ∈ snapshot.records shelf, shelf.identity record ≠ shelf.identity kept) →
    (((s.importSnapshot snapshot).table shelf).get? key = some kept ↔
      ∀ record ∈ snapshot.records shelf, ¬ Blurred (shelf.identity record) (shelf.identity kept))
  slashes : ∀ record, Blurred (shelf.identity record) (shelf.identity kept) →
    (¬ SlashFree (shelf.identity record).1 ∨ ¬ SlashFree (shelf.identity kept).1) ∧
      (¬ SlashFree (shelf.identity record).2 ∨ ¬ SlashFree (shelf.identity kept).2)

/-- In every store that a run leaves, a binding or a policy stays in its place while others with another namespace or
name are put or imported, just if none of these is blurred with it, for which a namespace and a name must have a
slash. -/
theorem writes_lose_only_blurred_records (operations : List StoreOperation) (shelf : Shelf)
    (spaced : shelf ≠ .clusters) (key : String) (kept : shelf.Record)
    (stored : ((run operations).table shelf).get? key = some kept) :
    LosesOnlyBlurred (run operations) shelf key kept where
  place record := by
    have keyed : shelf.key kept = key := keyed_run operations shelf key kept stored
    rw [← keyed, place_eq_joined spaced, key_eq_joined spaced, joined_eq_iff]
  put record apart := by
    have alone : ∀ other ∈ [record], shelf.identity other ≠ shelf.identity kept := by simpa using apart
    have keeps := keeps_iff spaced stored alone
    rw [table_put]
    simpa using keeps
  imported snapshot apart := by
    rw [table_importSnapshot]
    exact keeps_iff spaced stored apart
  slashes _ := slashes_of_blurred

def bare (space name : String) : Binding := ⟨space, name, ⟨"apps/v1", "Deployment", space, name⟩, [], [], []⟩

def bindingNames (s : Store) : List (String × String × String) :=
  s.bindings.entries.map fun (key, b) => (key, b.space, b.name)

/-- Of two bindings with different namespaces and names the later one takes the place of the other, whether they are
put or imported. -/
theorem slashes_lose_a_binding :
    let first : StoreOperation := .put .bindings (bare "a" "b/c")
    let second : StoreOperation := .put .bindings (bare "a/b" "c")
    (bare "a" "b/c").space ≠ (bare "a/b" "c").space ∧
      bindingNames (run [first]) = [("a/b/c", "a", "b/c")] ∧
      bindingNames (run [first, second]) = [("a/b/c", "a/b", "c")] ∧
      bindingNames (run [.importSnapshot { Snapshot.empty with bindings := [bare "a" "b/c", bare "a/b" "c"] }]) =
        [("a/b/c", "a/b", "c")] := by
  intro first second
  have alone : bindingNames (run [first]) = [("a/b/c", "a", "b/c")] := by decide +kernel
  have both : bindingNames (run [first, second]) = [("a/b/c", "a/b", "c")] := by decide +kernel
  exact ⟨by decide, alone, both, by decide +kernel⟩

/-- Slashes in names alone do no harm. -/
theorem writes_lose_only_blurred_records_under_one_space :
    let operations : List StoreOperation := [.put .bindings (bare "a" "b/c")]
    Shelf.bindings ≠ .clusters ∧
      ((run operations).table .bindings).get? "a/b/c" = some (bare "a" "b/c") ∧
      (((run operations).put .bindings (bare "a" "b")).table .bindings).get? "a/b/c" = some (bare "a" "b/c") := by
  intro operations
  have spaced : Shelf.bindings ≠ .clusters := by decide
  have stored : ((run operations).table .bindings).get? "a/b/c" = some (bare "a" "b/c") := rfl
  have loses := writes_lose_only_blurred_records operations .bindings spaced "a/b/c" _ stored
  refine ⟨spaced, stored, (loses.put (bare "a" "b") (by decide)).2 fun blurred => ?_⟩
  rcases (loses.slashes _ blurred).1 with slash | slash
  · exact slash (by decide)
  · exact slash (by decide)

end Store

end ReplicaAtlas
