import ReplicaAtlas.Json.Document
import ReplicaAtlas.Json.Recorded

/-!
Values and the documents that they are kept from. A document gives a value whose objects are in order, and such a
value is kept from its own document as it is. How deep a value is nested, and which numbers stand in it, is asked of
the value as a whole.
-/
namespace ReplicaAtlas

namespace Entries
variable {α : Type}

theorem put_of_above {key : String} {value : α} {entries : List (String × α)} (above : ∀ e ∈ entries, e.1 < key) :
    put key value entries = entries ++ [(key, value)] := by
  induction entries with
  | nil => rfl
  | cons head rest ih =>
    obtain ⟨k, v⟩ := head
    have below : k < key := above (k, v) List.mem_cons_self
    have distinct : key ≠ k := fun same => String.lt_irrefl k (same ▸ below)
    have rest := ih fun e member => above e (List.mem_cons_of_mem _ member)
    rw [put, if_neg (String.lt_asymm below), if_neg distinct, rest]
    rfl

theorem Ascending.put_next {kept rest : List (String × α)} {key : String} {value : α}
    (ascending : Ascending (kept ++ (key, value) :: rest)) :
    Entries.put key value kept = kept ++ [(key, value)] := by
  refine put_of_above fun e member => ?_
  exact (List.pairwise_append.1 ascending).2.2 e member (key, value) List.mem_cons_self

end Entries

namespace Json

section Induction
variable {motive : Json → Prop} (null : motive .null) (bool : ∀ b, motive (.bool b)) (number : ∀ n, motive (.number n))
  (text : ∀ s, motive (.text s)) (array : ∀ items, (∀ v ∈ items, motive v) → motive (.array items))
  (object : ∀ members, (∀ m ∈ members, motive m.2) → motive (.object members))

include null bool number text array object

@[elab_as_elim]
theorem nested_induction (v : Json) : motive v :=
  match v with
  | .null => null
  | .bool b => bool b
  | .number n => number n
  | .text s => text s
  | .array items => array items fun v _ => nested_induction v
  | .object members => object members fun m _ => nested_induction m.2
termination_by sizeOf v
decreasing_by
  · have := List.sizeOf_lt_of_mem ‹_ ∈ items›
    simp only [Json.array.sizeOf_spec]
    omega
  · have := List.sizeOf_lt_of_mem ‹_ ∈ members›
    have : sizeOf m = 1 + sizeOf m.1 + sizeOf m.2 := by cases m; rfl
    simp only [Json.object.sizeOf_spec]
    omega

end Induction

theorem recordedItems_eq_map (items : List Json) : recordedItems items = items.map recorded := by
  induction items with
  | nil => rfl
  | cons v rest ih => rw [recordedItems, ih, List.map_cons]

theorem recordedMembers_eq_map (members : List (String × Json)) :
    recordedMembers members = members.map fun m => (m.1, m.2.recorded) := by
  induction members with
  | nil => rfl
  | cons m rest ih => rw [recordedMembers, ih, List.map_cons]

mutual

def depth : Json → Nat
  | .array items => depthOfItems items + 1
  | .object members => depthOfMembers members + 1
  | _ => 0

def depthOfItems : List Json → Nat
  | [] => 0
  | v :: vs => max v.depth (depthOfItems vs)

def depthOfMembers : List (String × Json) → Nat
  | [] => 0
  | (_, v) :: ms => max v.depth (depthOfMembers ms)

end

mutual

def numbers : Json → List Number
  | .number n => [n]
  | .array items => numbersOfItems items
  | .object members => numbersOfMembers members
  | _ => []

def numbersOfItems : List Json → List Number
  | [] => []
  | v :: vs => v.numbers ++ numbersOfItems vs

def numbersOfMembers : List (String × Json) → List Number
  | [] => []
  | (_, v) :: ms => v.numbers ++ numbersOfMembers ms

end

theorem depthOfItems_le_iff {items : List Json} {n : Nat} : depthOfItems items ≤ n ↔ ∀ v ∈ items, v.depth ≤ n := by
  induction items with
  | nil => simp [depthOfItems]
  | cons v rest ih => rw [depthOfItems, Nat.max_le, ih, List.forall_mem_cons]

theorem depthOfMembers_le_iff {members : List (String × Json)} {n : Nat} :
    depthOfMembers members ≤ n ↔ ∀ m ∈ members, m.2.depth ≤ n := by
  induction members with
  | nil => simp [depthOfMembers]
  | cons m rest ih => rw [depthOfMembers, Nat.max_le, ih, List.forall_mem_cons]

theorem numbersOfItems_eq_flatMap (items : List Json) : numbersOfItems items = items.flatMap numbers := by
  induction items with
  | nil => rfl
  | cons v rest ih => rw [numbersOfItems, ih, List.flatMap_cons]

theorem numbersOfMembers_eq_flatMap (members : List (String × Json)) :
    numbersOfMembers members = members.flatMap fun m => m.2.numbers := by
  induction members with
  | nil => rfl
  | cons m rest ih => rw [numbersOfMembers, ih, List.flatMap_cons]

theorem mem_numbers_array {items : List Json} {n : Number} :
    n ∈ (array items).numbers ↔ ∃ v ∈ items, n ∈ v.numbers := by
  rw [numbers, numbersOfItems_eq_flatMap, List.mem_flatMap]

theorem mem_numbers_object {members : List (String × Json)} {n : Number} :
    n ∈ (object members).numbers ↔ ∃ m ∈ members, n ∈ m.2.numbers := by
  rw [numbers, numbersOfMembers_eq_flatMap, List.mem_flatMap]

/-- A word of 64 bits, with or without a sign. -/
def IsWord (n : Int) : Prop := -9223372036854775808 ≤ n ∧ n < 18446744073709551616

theorem isWord_of_natural {n : Nat} (bounded : n < 18446744073709551616) : IsWord n := by
  constructor <;> omega

/-- The value has at most so many levels, and its whole numbers are words. -/
structure Within (levels : Nat) (v : Json) : Prop where
  depth_le : v.depth ≤ levels
  whole : ∀ n, .int n ∈ v.numbers → IsWord n

section Within
variable {levels : Nat}

@[simp] theorem within_null : Within levels .null := ⟨Nat.zero_le _, nofun⟩

@[simp] theorem within_bool (b : Bool) : Within levels (.bool b) := ⟨Nat.zero_le _, nofun⟩

@[simp] theorem within_text (s : String) : Within levels (.text s) := ⟨Nat.zero_le _, nofun⟩

@[simp] theorem within_float (x : Float) : Within levels (.float x) := by
  refine ⟨Nat.zero_le _, fun n member => ?_⟩
  cases List.mem_singleton.1 member

theorem within_int {n : Int} (isWord : IsWord n) : Within levels (.number (.int n)) := by
  refine ⟨Nat.zero_le _, fun m member => ?_⟩
  cases List.mem_singleton.1 member
  exact isWord

@[simp] theorem within_wide (n : UInt64) : Within levels (.wide n) :=
  within_int (isWord_of_natural n.toNat_lt)

@[simp] theorem within_word (n : UInt32) : Within levels (.word n) :=
  within_int (isWord_of_natural (Nat.lt_trans n.toNat_lt (by decide)))

@[simp] theorem within_array_iff {items : List Json} :
    Within (levels + 1) (.array items) ↔ ∀ v ∈ items, Within levels v := by
  constructor
  · rintro ⟨shallow, whole⟩ v member
    rw [depth, Nat.add_le_add_iff_right, depthOfItems_le_iff] at shallow
    exact ⟨shallow v member, fun n inside => whole n (mem_numbers_array.2 ⟨v, member, inside⟩)⟩
  · intro inside
    refine ⟨Nat.succ_le_succ (depthOfItems_le_iff.2 fun v member => (inside v member).depth_le), fun n among => ?_⟩
    obtain ⟨v, member, among⟩ := mem_numbers_array.1 among
    exact (inside v member).whole n among

@[simp] theorem within_object_iff {members : List (String × Json)} :
    Within (levels + 1) (.object members) ↔ ∀ m ∈ members, Within levels m.2 := by
  constructor
  · rintro ⟨shallow, whole⟩ m member
    rw [depth, Nat.add_le_add_iff_right, depthOfMembers_le_iff] at shallow
    exact ⟨shallow m member, fun n inside => whole n (mem_numbers_object.2 ⟨m, member, inside⟩)⟩
  · intro inside
    refine ⟨Nat.succ_le_succ (depthOfMembers_le_iff.2 fun m member => (inside m member).depth_le), fun n among => ?_⟩
    obtain ⟨m, member, among⟩ := mem_numbers_object.1 among
    exact (inside m member).whole n among

@[simp] theorem within_list_iff {α : Type} {encode : α → Json} {as : List α} :
    Within (levels + 1) (.list encode as) ↔ ∀ a ∈ as, Within levels (encode a) :=
  within_array_iff.trans List.forall_mem_map

@[simp] theorem within_texts {items : List String} : Within (levels + 1) (.texts items) :=
  within_list_iff.2 fun s _ => within_text s

theorem within_table {α : Type} {encode : α → Json} {t : Table α} (inside : ∀ a, Within levels (encode a)) :
    Within (levels + 1) (.table encode t) :=
  within_object_iff.2 (List.forall_mem_map.2 fun e _ => inside e.2)

theorem within_option {α : Type} {encode : α → Json} {a : Option α} (inside : ∀ b ∈ a, Within levels (encode b)) :
    Within levels (.option encode a) := by
  cases a with
  | none => exact within_null
  | some b => exact inside b rfl

end Within

inductive Ordered : Json → Prop where
  | null : Ordered .null
  | bool (b : Bool) : Ordered (.bool b)
  | number (n : Number) : Ordered (.number n)
  | text (s : String) : Ordered (.text s)
  | array {items : List Json} (inside : ∀ v ∈ items, Ordered v) : Ordered (.array items)
  | object {members : List (String × Json)} (ascending : Entries.Ascending members)
      (inside : ∀ m ∈ members, Ordered m.2) : Ordered (.object members)

end Json

namespace Document

theorem ofItems_eq_map (items : List Json) : ofItems items = items.map ofJson := by
  induction items with
  | nil => rfl
  | cons v rest ih => rw [ofItems, ih, List.map_cons]

theorem ofMembers_eq_map (members : List (String × Json)) :
    ofMembers members = members.map fun m => (some m.1, ofJson m.2) := by
  induction members with
  | nil => rfl
  | cons m rest ih => rw [ofMembers, ih, List.map_cons]

theorem values?_ofItems {items : List Json} (kept : ∀ v ∈ items, (ofJson v).value? = some v) :
    values? (ofItems items) = some items := by
  induction items with
  | nil => rfl
  | cons v rest ih =>
    have others := ih fun other member => kept other (List.mem_cons_of_mem _ member)
    rw [ofItems, values?, kept v List.mem_cons_self, others]
    rfl

theorem membersValue?_ofMembers {members before : List (String × Json)}
    (ascending : Entries.Ascending (before ++ members)) (kept : ∀ m ∈ members, (ofJson m.2).value? = some m.2) :
    membersValue? (ofMembers members) before = some (before ++ members) := by
  induction members generalizing before with
  | nil => rw [List.append_nil]; rfl
  | cons m rest ih =>
    obtain ⟨name, v⟩ := m
    have next := ascending.put_next
    rw [List.append_cons] at ascending ⊢
    have others := ih ascending fun other member => kept other (List.mem_cons_of_mem _ member)
    rw [ofMembers, membersValue?, kept (name, v) List.mem_cons_self, ← others, ← next]
    rfl

theorem value?_ofJson {v : Json} (ordered : v.Ordered) : (ofJson v).value? = some v := by
  induction ordered with
  | null => rfl
  | bool b => rfl
  | number n => rfl
  | text s => rfl
  | array inside ih => rw [ofJson, value?, values?_ofItems ih, Option.map_some]
  | @object members ascending inside ih =>
    have kept : membersValue? (ofMembers members) [] = some members := membersValue?_ofMembers ascending ih
    rw [ofJson, value?, kept, Option.map_some]

mutual

theorem ordered_of_value? {d : Document} {v : Json} (kept : d.value? = some v) : v.Ordered := by
  cases d with
  | null => cases kept; exact .null
  | bool b => cases kept; exact .bool b
  | number n => cases kept; exact .number n
  | text s => cases kept; exact .text s
  | array items closed =>
    obtain ⟨vs, read, rfl⟩ := Option.map_eq_some_iff.1 kept
    exact .array (ordered_of_values? read)
  | object members =>
    obtain ⟨ms, read, rfl⟩ := Option.map_eq_some_iff.1 kept
    obtain ⟨ascending, inside⟩ := ordered_of_membersValue? read .nil (by simp)
    exact .object ascending inside
  | valueless => cases kept
  | broken => cases kept

theorem ordered_of_values? {items : List Document} {vs : List Json} (read : values? items = some vs) :
    ∀ v ∈ vs, v.Ordered := by
  cases items with
  | nil =>
    cases read
    simp
  | cons d rest =>
    simp only [values?, Option.bind_eq_bind, Option.bind_eq_some_iff, Option.pure_def, Option.some.injEq] at read
    obtain ⟨v, kept, others, restRead, rfl⟩ := read
    exact List.forall_mem_cons.2 ⟨ordered_of_value? kept, ordered_of_values? restRead⟩

theorem ordered_of_membersValue? {members : List (Option String × Document)} {before after : List (String × Json)}
    (read : membersValue? members before = some after) (ascending : Entries.Ascending before)
    (inside : ∀ m ∈ before, m.2.Ordered) : Entries.Ascending after ∧ ∀ m ∈ after, m.2.Ordered := by
  cases members with
  | nil =>
    cases read
    exact ⟨ascending, inside⟩
  | cons m rest =>
    obtain ⟨name, d⟩ := m
    cases name with
    | none => cases read
    | some name =>
      simp only [membersValue?, Option.bind_eq_bind, Option.bind_eq_some_iff] at read
      obtain ⟨v, kept, restRead⟩ := read
      refine ordered_of_membersValue? restRead (ascending.put name v) fun e member => ?_
      rcases Entries.mem_put member with rfl | old
      · exact ordered_of_value? kept
      · exact inside e old

end

end Document

end ReplicaAtlas
