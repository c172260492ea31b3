import Mathlib.Data.List.Sort
import ReplicaAtlas.Table

/-!
Tables after a list of writes. A write puts a value under a key or erases the key, and a table may keep
another form of a value than the one that is put. What a table then holds under a key is settled by the last
write to it, and since the entries are in the order of their keys, a table is settled by what it holds.
-/
namespace ReplicaAtlas

inductive Write (α : Type) where
  | put (key : String) (value : α)
  | erase (key : String)

namespace Write
variable {α : Type}

def key : Write α → String
  | .put key _ => key
  | .erase key => key

def LastPut (writes : List (Write α)) (key : String) (value : α) : Prop :=
  ∃ before after, writes = before ++ .put key value :: after ∧ ∀ write ∈ after, write.key ≠ key

theorem not_lastPut_nil (key : String) (value : α) : ¬ LastPut [] key value := by
  rintro ⟨before, after, split, -⟩
  exact absurd split.symm (List.append_ne_nil_of_right_ne_nil before (List.cons_ne_nil _ _))

theorem lastPut_cons {write : Write α} {writes : List (Write α)} {key : String} {value : α} :
    LastPut (write :: writes) key value ↔
      LastPut writes key value ∨ (write = .put key value ∧ ∀ later ∈ writes, later.key ≠ key) := by
  constructor
  · rintro ⟨before, after, split, later⟩
    cases before with
    | nil =>
      obtain ⟨rfl, rfl⟩ := List.cons.inj split
      exact .inr ⟨rfl, later⟩
    | cons first before =>
      obtain ⟨rfl, rest⟩ := List.cons.inj split
      exact .inl ⟨before, after, rest, later⟩
  · rintro (⟨before, after, rfl, later⟩ | ⟨rfl, later⟩)
    · exact ⟨write :: before, after, rfl, later⟩
    · exact ⟨[], writes, rfl, later⟩

/-- A write that is written over does not count. -/
theorem lastPut_cons_of_overwritten {write : Write α} {writes : List (Write α)}
    (overwritten : ∃ later ∈ writes, later.key = write.key) {key : String} {value : α} :
    LastPut (write :: writes) key value ↔ LastPut writes key value := by
  rw [lastPut_cons, or_iff_left]
  rintro ⟨rfl, apart⟩
  obtain ⟨later, member, same⟩ := overwritten
  exact apart later member same

theorem LastPut.mem {writes : List (Write α)} {key : String} {value : α}
    (last : LastPut writes key value) : .put key value ∈ writes := by
  obtain ⟨before, after, rfl, -⟩ := last
  exact List.mem_append_right before List.mem_cons_self

end Write

namespace Table
variable {α : Type}

theorem eq_of_entries {a b : Table α} (same : a.entries = b.entries) : a = b := by
  cases a
  cases b
  cases same
  rfl

theorem ext_get? {a b : Table α} (same : ∀ key, a.get? key = b.get? key) : a = b := by
  have irreflexive : Std.Irrefl fun e f : String × α => e.1 < f.1 := ⟨fun e => String.lt_irrefl e.1⟩
  have antisymmetric : Std.Antisymm fun e f : String × α => e.1 < f.1 :=
    ⟨fun _ _ less greater => absurd greater (String.lt_asymm less)⟩
  refine eq_of_entries (a.ascending.eq_of_mem_iff b.ascending fun ⟨key, value⟩ => ?_)
  rw [← get?_eq_some_iff, ← get?_eq_some_iff, same]

/-- A write to a table that keeps each value in the form that `kept` gives it. -/
def write (kept : α → α) (table : Table α) : Write α → Table α
  | .put key value => table.insert key (kept value)
  | .erase key => table.erase key

theorem get?_write_of_ne {kept : α → α} {table : Table α} {write : Write α} {key : String}
    (apart : write.key ≠ key) : (table.write kept write).get? key = table.get? key := by
  cases write with
  | put other value => exact (get?_insert table other key _).trans (if_neg (Ne.symm apart))
  | erase other => exact (get?_erase table other key).trans (if_neg (Ne.symm apart))

theorem get?_write_iff {kept : α → α} {table : Table α} {write : Write α} {key : String} {value : α} :
    (table.write kept write).get? key = some value ↔
      (∃ written, write = .put key written ∧ value = kept written) ∨
        (write.key ≠ key ∧ table.get? key = some value) := by
  by_cases same : write.key = key
  · cases write with
    | put other written =>
      obtain rfl : other = key := same
      simp [Table.write, Write.key, eq_comm]
    | erase other =>
      obtain rfl : other = key := same
      simp [Table.write, Write.key]
  · rw [get?_write_of_ne same]
    have differs (written : α) : write ≠ .put key written := fun form => same (form ▸ rfl)
    simp [same, differs]

theorem get?_writes_of_ne {kept : α → α} {writes : List (Write α)} {key : String} (table : Table α)
    (apart : ∀ write ∈ writes, write.key ≠ key) :
    (writes.foldl (Table.write kept) table).get? key = table.get? key := by
  induction writes generalizing table with
  | nil => rfl
  | cons write writes ih =>
    rw [List.foldl_cons, ih _ fun later member => apart later (List.mem_cons_of_mem _ member)]
    exact get?_write_of_ne (apart write List.mem_cons_self)

theorem get?_write_congr {kept : α → α} {table other : Table α} {key : String}
    (same : table.get? key = other.get? key) (write : Write α) :
    (table.write kept write).get? key = (other.write kept write).get? key := by
  cases write with
  | put written value => simp only [Table.write, get?_insert, same]
  | erase erased => simp only [Table.write, get?_erase, same]

theorem get?_writes_congr {kept : α → α} {table other : Table α} {key : String}
    (same : table.get? key = other.get? key) (writes : List (Write α)) :
    (writes.foldl (Table.write kept) table).get? key = (writes.foldl (Table.write kept) other).get? key := by
  induction writes generalizing table other with
  | nil => exact same
  | cons write writes ih => exact ih (get?_write_congr same write)

/-- Under a key that is written to it does not matter what the table held before. -/
theorem get?_writes_of_mem {kept : α → α} {writes : List (Write α)} {key : String}
    (written : ∃ write ∈ writes, write.key = key) (table other : Table α) :
    (writes.foldl (Table.write kept) table).get? key = (writes.foldl (Table.write kept) other).get? key := by
  induction writes generalizing table other with
  | nil =>
    obtain ⟨write, member, -⟩ := written
    exact absurd member List.not_mem_nil
  | cons first writes ih =>
    by_cases later : ∃ write ∈ writes, write.key = key
    · exact ih later _ _
    · obtain ⟨write, member, rfl⟩ := written
      obtain rfl : write = first := by
        rcases List.mem_cons.1 member with same | member
        · exact same
        · exact absurd ⟨write, member, rfl⟩ later
      refine get?_writes_congr ?_ writes
      cases write with
      | put key value => simp only [Table.write, Write.key, get?_insert, if_true]
      | erase key => simp only [Table.write, Write.key, get?_erase, if_true]

/-- Under a key there is what the writes to that key leave there. -/
theorem get?_writes_filter {kept : α → α} (writes : List (Write α)) (key : String) (table : Table α) :
    (writes.foldl (Table.write kept) table).get? key =
      ((writes.filter (·.key = key)).foldl (Table.write kept) table).get? key := by
  induction writes generalizing table with
  | nil => rfl
  | cons write writes ih =>
    rw [List.foldl_cons, ih, List.filter_cons]
    split
    case isTrue => rfl
    case isFalse apart =>
      exact get?_writes_congr (get?_write_of_ne (by simpa using apart)) _

theorem writes_twice {kept : α → α} (writes : List (Write α)) (table : Table α) :
    writes.foldl (Table.write kept) (writes.foldl (Table.write kept) table) =
      writes.foldl (Table.write kept) table := by
  refine ext_get? fun key => ?_
  by_cases written : ∃ write ∈ writes, write.key = key
  · exact get?_writes_of_mem written _ _
  · exact get?_writes_of_ne _ fun write member same => written ⟨write, member, same⟩

theorem get?_writes_iff {kept : α → α} {writes : List (Write α)} {key : String} {value : α}
    (table : Table α) :
    (writes.foldl (Table.write kept) table).get? key = some value ↔
      (∃ written, Write.LastPut writes key written ∧ value = kept written) ∨
        ((∀ write ∈ writes, write.key ≠ key) ∧ table.get? key = some value) := by
  induction writes generalizing table with
  | nil => simp [Write.not_lastPut_nil]
  | cons write writes ih =>
    rw [List.foldl_cons, ih]
    simp only [get?_write_iff, Write.lastPut_cons, List.forall_mem_cons]
    constructor
    · rintro (⟨written, last, rfl⟩ | ⟨later, ⟨written, rfl, rfl⟩ | ⟨apart, old⟩⟩)
      · exact .inl ⟨written, .inl last, rfl⟩
      · exact .inl ⟨written, .inr ⟨rfl, later⟩, rfl⟩
      · exact .inr ⟨⟨apart, later⟩, old⟩
    · rintro (⟨written, last | ⟨rfl, later⟩, rfl⟩ | ⟨⟨apart, later⟩, old⟩)
      · exact .inl ⟨written, last, rfl⟩
      · exact .inr ⟨later, .inl ⟨written, rfl, rfl⟩⟩
      · exact .inr ⟨later, .inr ⟨apart, old⟩⟩

theorem get?_written_iff {kept : α → α} {writes : List (Write α)} {key : String} {value : α} :
    (writes.foldl (Table.write kept) empty).get? key = some value ↔
      ∃ written, Write.LastPut writes key written ∧ value = kept written := by
  rw [get?_writes_iff]
  simp

end Table

end ReplicaAtlas
