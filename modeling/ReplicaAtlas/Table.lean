/-!
Tables from text keys to values. The entries stand in strictly ascending order of the code points of
their keys, which is also the order of the keys' UTF-8 bytes, so a table is settled by what it maps.
-/
namespace ReplicaAtlas

namespace Entries
variable {α : Type}

def put (key : String) (value : α) : List (String × α) → List (String × α)
  | [] => [(key, value)]
  | (k, v) :: rest =>
    if key < k then (key, value) :: (k, v) :: rest
    else if key = k then (key, value) :: rest
    else (k, v) :: put key value rest

def erase (key : String) : List (String × α) → List (String × α)
  | [] => []
  | (k, v) :: rest => if key = k then rest else (k, v) :: erase key rest

def find? (key : String) : List (String × α) → Option α
  | [] => none
  | (k, v) :: rest => if key = k then some v else find? key rest

def Ascending (entries : List (String × α)) : Prop := entries.Pairwise (fun a b => a.1 < b.1)

theorem lt_of_not_lt_of_ne {a b : String} (notLess : ¬ a < b) (distinct : a ≠ b) : b < a := by
  apply String.not_le.1
  intro le
  exact distinct (String.le_antisymm le (String.not_lt.1 notLess))

theorem mem_put {key : String} {value : α} {entries : List (String × α)} {e : String × α}
    (member : e ∈ put key value entries) : e = (key, value) ∨ e ∈ entries := by
  induction entries with
  | nil => simpa [put] using member
  | cons head rest ih =>
    obtain ⟨k, v⟩ := head
    simp only [put] at member
    split at member
    · simpa using member
    · split at member
      · rcases List.mem_cons.1 member with h | h
        · exact .inl h
        · exact .inr (List.mem_cons_of_mem _ h)
      · rcases List.mem_cons.1 member with h | h
        · exact .inr (h ▸ List.mem_cons_self)
        · exact (ih h).imp_right (List.mem_cons_of_mem _)

theorem Ascending.put {entries : List (String × α)} (ascending : Ascending entries)
    (key : String) (value : α) : Ascending (Entries.put key value entries) := by
  induction entries with
  | nil => simp [Entries.put, Ascending]
  | cons head rest ih =>
    obtain ⟨k, v⟩ := head
    obtain ⟨above, restAscending⟩ := List.pairwise_cons.1 ascending
    simp only [Entries.put]
    split
    case isTrue less =>
      refine List.pairwise_cons.2 ⟨fun e he => ?_, ascending⟩
      rcases List.mem_cons.1 he with rfl | he
      · exact less
      · exact String.lt_trans less (above e he)
    case isFalse notLess =>
      split
      case isTrue same =>
        subst same
        exact List.pairwise_cons.2 ⟨above, restAscending⟩
      case isFalse distinct =>
        refine List.pairwise_cons.2 ⟨fun e he => ?_, ih restAscending⟩
        rcases mem_put he with rfl | he
        · exact lt_of_not_lt_of_ne notLess distinct
        · exact above e he

theorem mem_erase {key : String} {entries : List (String × α)} {e : String × α}
    (member : e ∈ erase key entries) : e ∈ entries := by
  induction entries with
  | nil => exact member
  | cons head rest ih =>
    obtain ⟨k, v⟩ := head
    simp only [erase] at member
    split at member
    · exact List.mem_cons_of_mem _ member
    · rcases List.mem_cons.1 member with h | h
      · exact h ▸ List.mem_cons_self
      · exact List.mem_cons_of_mem _ (ih h)

theorem Ascending.erase {entries : List (String × α)} (ascending : Ascending entries)
    (key : String) : Ascending (Entries.erase key entries) := by
  induction entries with
  | nil => exact ascending
  | cons head rest ih =>
    obtain ⟨k, v⟩ := head
    obtain ⟨above, restAscending⟩ := List.pairwise_cons.1 ascending
    simp only [Entries.erase]
    split
    · exact restAscending
    · exact List.pairwise_cons.2 ⟨fun e he => above e (mem_erase he), ih restAscending⟩

theorem find?_put (key other : String) (value : α) (entries : List (String × α)) :
    find? other (put key value entries) = if other = key then some value else find? other entries := by
  induction entries with
  | nil => by_cases h : other = key <;> simp [put, find?, h]
  | cons head rest ih =>
    obtain ⟨k, v⟩ := head
    simp only [put]
    split
    · by_cases h : other = key <;> simp [find?, h]
    · split
      case isTrue same =>
        subst same
        by_cases h : other = key <;> simp [find?, h]
      case isFalse distinct =>
        by_cases hk : other = k
        · subst hk
          have apart : other ≠ key := fun h => distinct h.symm
          simp [find?, apart]
        · simp [find?, hk, ih]

theorem find?_eq_none_of_lt {key : String} {entries : List (String × α)}
    (above : ∀ e ∈ entries, key < e.1) : find? key entries = none := by
  induction entries with
  | nil => rfl
  | cons head rest ih =>
    obtain ⟨k, v⟩ := head
    have less : key < k := above (k, v) List.mem_cons_self
    have distinct : key ≠ k := fun h => String.lt_irrefl k (h ▸ less)
    simp [find?, distinct, ih fun e he => above e (List.mem_cons_of_mem _ he)]

theorem Ascending.find?_erase {entries : List (String × α)} (ascending : Ascending entries)
    (key other : String) :
    find? other (Entries.erase key entries) = if other = key then none else find? other entries := by
  induction entries with
  | nil => simp [Entries.erase, find?]
  | cons head rest ih =>
    obtain ⟨k, v⟩ := head
    obtain ⟨above, restAscending⟩ := List.pairwise_cons.1 ascending
    simp only [Entries.erase]
    split
    case isTrue same =>
      subst same
      by_cases h : other = key
      · subst h
        simp [find?_eq_none_of_lt above]
      · simp [find?, h]
    case isFalse distinct =>
      by_cases hk : other = k
      · subst hk
        have apart : other ≠ key := fun h => distinct h.symm
        simp [find?, apart]
      · simp [find?, hk, ih restAscending]

theorem Ascending.find?_eq_some_iff {entries : List (String × α)} (ascending : Ascending entries)
    (key : String) (value : α) : find? key entries = some value ↔ (key, value) ∈ entries := by
  induction entries with
  | nil => simp [find?]
  | cons head rest ih =>
    obtain ⟨k, v⟩ := head
    obtain ⟨above, restAscending⟩ := List.pairwise_cons.1 ascending
    by_cases h : key = k
    · subst h
      have absent : (key, value) ∉ rest := fun he => String.lt_irrefl key (above _ he)
      simp [find?, absent, eq_comm]
    · simp [find?, h, ih restAscending]

end Entries

structure Table (α : Type) where
  entries : List (String × α)
  ascending : Entries.Ascending entries

namespace Table
variable {α : Type}

def empty : Table α := ⟨[], List.Pairwise.nil⟩

instance : EmptyCollection (Table α) := ⟨empty⟩
instance : Inhabited (Table α) := ⟨empty⟩

def insert (table : Table α) (key : String) (value : α) : Table α :=
  ⟨Entries.put key value table.entries, table.ascending.put key value⟩

def erase (table : Table α) (key : String) : Table α :=
  ⟨Entries.erase key table.entries, table.ascending.erase key⟩

def get? (table : Table α) (key : String) : Option α := Entries.find? key table.entries

def contains (table : Table α) (key : String) : Bool := (table.get? key).isSome

def keys (table : Table α) : List String := table.entries.map (·.1)

def values (table : Table α) : List α := table.entries.map (·.2)

def valuesWhere (table : Table α) (test : String → Bool) : List α :=
  (table.entries.filter fun e => test e.1).map (·.2)

def isEmpty (table : Table α) : Bool := table.entries.isEmpty

def ofList (entries : List (String × α)) : Table α :=
  entries.foldl (fun table e => table.insert e.1 e.2) empty

@[simp] theorem get?_empty (key : String) : (empty : Table α).get? key = none := rfl

@[simp] theorem get?_insert (table : Table α) (key other : String) (value : α) :
    (table.insert key value).get? other = if other = key then some value else table.get? other :=
  Entries.find?_put ..

@[simp] theorem get?_erase (table : Table α) (key other : String) :
    (table.erase key).get? other = if other = key then none else table.get? other :=
  table.ascending.find?_erase ..

theorem get?_eq_some_iff (table : Table α) (key : String) (value : α) :
    table.get? key = some value ↔ (key, value) ∈ table.entries :=
  table.ascending.find?_eq_some_iff ..

end Table

end ReplicaAtlas
