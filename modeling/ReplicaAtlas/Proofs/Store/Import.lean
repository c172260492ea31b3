import ReplicaAtlas.Proofs.Store.Run

/-!
Imports and single writes. An import has its own loops, one for each table. It leaves the store that single writes
of the same records leave, in whatever way the four lists are interleaved, for each list is written to a table of
its own. Only the order of records with one key counts, so to repeat an import changes nothing, and neither does
another order of records whose keys all differ.
-/
namespace ReplicaAtlas

def Shelf.place (shelf : Shelf) (record : shelf.Record) : String := shelf.key (shelf.normalized record)

namespace StoreOperation

def recordPut? (shelf : Shelf) : StoreOperation → Option shelf.Record
  | .put other record => if same : other = shelf then some (same ▸ record) else none
  | .importSnapshot _ => none
  | .delete _ _ => none

theorem recordPut?_put (shelf : Shelf) (record : shelf.Record) :
    (StoreOperation.put shelf record).recordPut? shelf = some record := dif_pos rfl

theorem recordPut?_put_of_ne {shelf other : Shelf} (apart : other ≠ shelf) (record : other.Record) :
    (StoreOperation.put other record).recordPut? shelf = none := dif_neg apart

theorem writes_put_eq (shelf other : Shelf) (record : other.Record) :
    (StoreOperation.put other record).writes shelf =
      ((StoreOperation.put other record).recordPut? shelf).toList.map shelf.written := by
  by_cases same : other = shelf
  · subst same
    rw [writes_put, recordPut?_put]
    rfl
  · rw [writes_put_of_ne _ _ _ same, recordPut?_put_of_ne same]
    rfl

/-- The operations put the records of the snapshot and do nothing else. Each list comes in its order, and the four
lists may be interleaved in any way. -/
structure PutRecords (snapshot : Snapshot) (operations : List StoreOperation) : Prop where
  onlyPuts : ∀ operation ∈ operations, ∃ shelf record, operation = .put shelf record
  records : ∀ shelf, operations.filterMap (·.recordPut? shelf) = snapshot.records shelf

theorem allWrites_of_onlyPuts {operations : List StoreOperation}
    (onlyPuts : ∀ operation ∈ operations, ∃ shelf record, operation = .put shelf record) (shelf : Shelf) :
    allWrites shelf operations = (operations.filterMap (·.recordPut? shelf)).map shelf.written := by
  induction operations with
  | nil => rfl
  | cons operation operations ih =>
    obtain ⟨other, record, rfl⟩ := onlyPuts operation List.mem_cons_self
    have rest := ih fun later member => onlyPuts later (List.mem_cons_of_mem _ member)
    rw [allWrites, List.flatMap_cons, ← allWrites, rest, writes_put_eq, List.filterMap_cons]
    cases (StoreOperation.put other record).recordPut? shelf with
    | none => rfl
    | some record => rfl

end StoreOperation

namespace Snapshot
open StoreOperation

def putsOn (shelf : Shelf) (records : List shelf.Record) : List StoreOperation := records.map (.put shelf)

theorem filterMap_putsOn (shelf : Shelf) (records : List shelf.Record) :
    (putsOn shelf records).filterMap (·.recordPut? shelf) = records := by
  rw [putsOn, List.filterMap_map]
  exact (List.filterMap_congr fun record _ => recordPut?_put shelf record).trans List.filterMap_some

theorem filterMap_putsOn_of_ne {shelf other : Shelf} (apart : other ≠ shelf) (records : List other.Record) :
    (putsOn other records).filterMap (·.recordPut? shelf) = [] := by
  rw [putsOn, List.filterMap_map]
  exact List.filterMap_eq_nil_iff.2 fun record _ => recordPut?_put_of_ne apart record

def putsInTurn (shelves : List Shelf) (records : (shelf : Shelf) → List shelf.Record) : List StoreOperation :=
  shelves.flatMap fun shelf => putsOn shelf (records shelf)

section InTurn
variable {shelves : List Shelf} {shelf : Shelf} (records : (shelf : Shelf) → List shelf.Record)

theorem exists_put_of_mem_putsInTurn {operation : StoreOperation} (member : operation ∈ putsInTurn shelves records) :
    ∃ other ∈ shelves, ∃ record, operation = .put other record := by
  obtain ⟨other, inside, put⟩ := List.mem_flatMap.1 member
  obtain ⟨record, -, rfl⟩ := List.mem_map.1 put
  exact ⟨other, inside, record, rfl⟩

theorem filterMap_putsInTurn_of_not_mem (absent : shelf ∉ shelves) :
    (putsInTurn shelves records).filterMap (·.recordPut? shelf) = [] := by
  refine List.filterMap_eq_nil_iff.2 fun operation member => ?_
  obtain ⟨other, inside, record, rfl⟩ := exists_put_of_mem_putsInTurn records member
  have apart : other ≠ shelf := fun same => absent (same ▸ inside)
  exact recordPut?_put_of_ne apart record

theorem filterMap_putsInTurn (distinct : shelves.Nodup) (member : shelf ∈ shelves) :
    (putsInTurn shelves records).filterMap (·.recordPut? shelf) = records shelf := by
  induction shelves with
  | nil => exact absurd member List.not_mem_nil
  | cons first shelves ih =>
    obtain ⟨absent, distinct⟩ := List.nodup_cons.1 distinct
    rw [putsInTurn, List.flatMap_cons, List.filterMap_append, ← putsInTurn]
    rcases List.mem_cons.1 member with rfl | later
    · rw [filterMap_putsOn, filterMap_putsInTurn_of_not_mem records absent, List.append_nil]
    · have apart : first ≠ shelf := fun same => absent (same ▸ later)
      rw [filterMap_putsOn_of_ne apart, ih distinct later, List.nil_append]

end InTurn

def importOrder : List Shelf := [.clusters, .bindings, .policies .propagation, .policies .override]

theorem mem_importOrder (shelf : Shelf) : shelf ∈ importOrder := by
  rcases shelf with _ | (_ | _) | _ <;> decide

def puts (snapshot : Snapshot) : List StoreOperation := putsInTurn importOrder snapshot.records

theorem putRecords_puts (snapshot : Snapshot) : PutRecords snapshot snapshot.puts where
  onlyPuts operation member := by
    obtain ⟨shelf, -, record, form⟩ := exists_put_of_mem_putsInTurn snapshot.records member
    exact ⟨shelf, record, form⟩
  records shelf := filterMap_putsInTurn snapshot.records (by decide) (mem_importOrder shelf)

/-- The other snapshot has the same records with each key, in the same order. -/
def SameByKey (snapshot other : Snapshot) : Prop :=
  ∀ (shelf : Shelf) (key : String), (other.records shelf).filter (shelf.place · = key) =
    (snapshot.records shelf).filter (shelf.place · = key)

/-- In the lists of the other snapshot, records that stand together and have pairwise different keys are permuted. -/
def Permuted (snapshot other : Snapshot) : Prop :=
  ∀ shelf, ∃ before records permuted after : List shelf.Record,
    snapshot.records shelf = before ++ records ++ after ∧ other.records shelf = before ++ permuted ++ after ∧
      permuted.Perm records ∧ (records.map shelf.place).Nodup

theorem filter_place_of_perm {shelf : Shelf} {records permuted : List shelf.Record} (same : permuted.Perm records)
    (distinct : (records.map shelf.place).Nodup) (key : String) :
    permuted.filter (shelf.place · = key) = records.filter (shelf.place · = key) := by
  have apart : records.Pairwise fun a b => shelf.place a ≠ shelf.place b := List.pairwise_map.1 distinct
  have permutedApart : permuted.Pairwise fun a b => shelf.place a ≠ shelf.place b :=
    List.pairwise_map.1 ((same.map shelf.place).nodup_iff.2 distinct)
  refine (same.filter _).eq_of_pairwise ?_ (permutedApart.filter _) (apart.filter _)
  intro a b memberA memberB differ _
  have keyA := of_decide_eq_true (List.mem_filter.1 memberA).2
  have keyB := of_decide_eq_true (List.mem_filter.1 memberB).2
  exact absurd (keyA.trans keyB.symm) differ

theorem Permuted.sameByKey {snapshot other : Snapshot} (permuted : snapshot.Permuted other) :
    snapshot.SameByKey other := by
  intro shelf key
  obtain ⟨before, records, reordered, after, given, taken, same, distinct⟩ := permuted shelf
  rw [given, taken, List.filter_append, List.filter_append, List.filter_append, List.filter_append,
    filter_place_of_perm same distinct]

end Snapshot

namespace Store
open StoreOperation Snapshot

def performs (s : Store) (operations : List StoreOperation) : Store :=
  operations.foldl (fun s operation => (s.perform operation).1) s

theorem performs_of_putRecords (s : Store) {snapshot : Snapshot} {operations : List StoreOperation}
    (puts : PutRecords snapshot operations) : s.performs operations = s.importSnapshot snapshot := by
  refine ext_table fun shelf => ?_
  rw [performs, table_performs, table_importSnapshot, allWrites_of_onlyPuts puts.onlyPuts, puts.records]

theorem importSnapshot_twice (s : Store) (snapshot : Snapshot) :
    (s.importSnapshot snapshot).importSnapshot snapshot = s.importSnapshot snapshot := by
  refine ext_table fun shelf => ?_
  rw [table_importSnapshot, table_importSnapshot, Table.writes_twice]

theorem filter_written (shelf : Shelf) (records : List shelf.Record) (key : String) :
    (records.map shelf.written).filter (·.key = key) = (records.filter (shelf.place · = key)).map shelf.written :=
  List.filter_map

theorem importSnapshot_sameByKey (s : Store) {snapshot other : Snapshot} (same : snapshot.SameByKey other) :
    s.importSnapshot other = s.importSnapshot snapshot := by
  refine ext_table fun shelf => Table.ext_get? fun key => ?_
  rw [table_importSnapshot, table_importSnapshot, Table.get?_writes_filter, filter_written, same shelf key,
    ← filter_written, ← Table.get?_writes_filter]

theorem get?_importSnapshot_of_ne (s : Store) {snapshot : Snapshot} {shelf : Shelf} {key : String}
    (absent : ∀ record ∈ snapshot.records shelf, shelf.place record ≠ key) :
    ((s.importSnapshot snapshot).table shelf).get? key = (s.table shelf).get? key := by
  rw [table_importSnapshot]
  refine Table.get?_writes_of_ne _ fun write member => ?_
  obtain ⟨record, given, rfl⟩ := List.mem_map.1 member
  exact absent record given

structure ImportsByPuts (s : Store) (snapshot : Snapshot) : Prop where
  puts : ∀ operations, PutRecords snapshot operations → s.performs operations = s.importSnapshot snapshot
  inTurn : PutRecords snapshot snapshot.puts
  twice : (s.importSnapshot snapshot).importSnapshot snapshot = s.importSnapshot snapshot
  sameByKey : ∀ other, snapshot.SameByKey other → s.importSnapshot other = s.importSnapshot snapshot
  permuted : ∀ other, snapshot.Permuted other → s.importSnapshot other = s.importSnapshot snapshot
  untouched : ∀ shelf key, (∀ record ∈ snapshot.records shelf, shelf.place record ≠ key) →
    ((s.importSnapshot snapshot).table shelf).get? key = (s.table shelf).get? key
  answer : s.perform (.importSnapshot snapshot) = (s.importSnapshot snapshot, .imported
    ⟨snapshot.clusters.length, snapshot.bindings.length, snapshot.propagation.length, snapshot.overrides.length⟩)

/-- Whatever a store holds, to import a snapshot and to put its records one by one, with the tables interleaved in
any way, leave the same store. To import it once more changes nothing, and neither does another order of records
whose keys all differ. -/
theorem import_is_puts_in_any_order (s : Store) (snapshot : Snapshot) : s.ImportsByPuts snapshot where
  puts _ := performs_of_putRecords s
  inTurn := snapshot.putRecords_puts
  twice := importSnapshot_twice s snapshot
  sameByKey _ := importSnapshot_sameByKey s
  permuted _ reordered := importSnapshot_sameByKey s reordered.sameByKey
  untouched _ _ := get?_importSnapshot_of_ne s
  answer := rfl

end Store

end ReplicaAtlas
