import ReplicaAtlas.Proofs.Table.LastWrite
import ReplicaAtlas.Proofs.Table.Listing
import ReplicaAtlas.Store.Operation

/-!
What a run of operations writes to each shelf of a store. An operation is a list of writes to a shelf, and a
run leaves on a shelf what the writes of its operations leave there, one operation after the other. Every
record is written under its own key, so a shelf has each record under its key.
-/
namespace ReplicaAtlas

namespace Shelf

def key : (shelf : Shelf) → shelf.Record → String
  | .bindings, b => b.tableKey
  | .policies _, policy => policy.tableKey
  | .clusters, c => c.name

def normalized : (shelf : Shelf) → shelf.Record → shelf.Record
  | .bindings, b => b
  | .policies _, policy => policy.normalized
  | .clusters, c => c

def recorded : (shelf : Shelf) → shelf.Record → shelf.Record
  | .bindings, b => b.recorded
  | .policies _, policy => policy
  | .clusters, c => c.recorded

def written (shelf : Shelf) (record : shelf.Record) : Write shelf.Record :=
  .put (shelf.key (shelf.normalized record)) (shelf.normalized record)

theorem key_recorded (shelf : Shelf) (record : shelf.Record) :
    shelf.key (shelf.recorded record) = shelf.key record := by
  cases shelf with
  | bindings => rfl
  | policies kind => rfl
  | clusters => rfl

end Shelf

namespace StoreOperation

def writes (shelf : Shelf) : StoreOperation → List (Write shelf.Record)
  | .put other record => if same : other = shelf then [shelf.written (same ▸ record)] else []
  | .importSnapshot snapshot => (snapshot.records shelf).map shelf.written
  | .delete other key => if other = shelf then [.erase key] else []

def allWrites (shelf : Shelf) (operations : List StoreOperation) : List (Write shelf.Record) :=
  operations.flatMap (writes shelf)

@[simp] theorem writes_put (shelf : Shelf) (record : shelf.Record) :
    (StoreOperation.put shelf record).writes shelf = [shelf.written record] := dif_pos rfl

theorem writes_put_of_ne (shelf other : Shelf) (record : other.Record) (apart : other ≠ shelf) :
    (StoreOperation.put other record).writes shelf = [] := dif_neg apart

@[simp] theorem writes_delete (shelf : Shelf) (key : String) :
    (StoreOperation.delete shelf key).writes shelf = [.erase key] := if_pos rfl

theorem writes_delete_of_ne (shelf other : Shelf) (key : String) (apart : other ≠ shelf) :
    (StoreOperation.delete other key).writes shelf = [] := if_neg apart

@[simp] theorem allWrites_singleton (shelf : Shelf) (operation : StoreOperation) :
    allWrites shelf [operation] = operation.writes shelf := List.flatMap_singleton ..

theorem mem_writes_put {operation : StoreOperation} {shelf : Shelf} {key : String} {record : shelf.Record}
    (member : .put key record ∈ operation.writes shelf) :
    ∃ given, record = shelf.normalized given ∧ key = shelf.key record := by
  cases operation with
  | put other given =>
    by_cases same : other = shelf
    · subst same
      simp only [writes, dite_true, List.mem_singleton, Shelf.written, Write.put.injEq] at member
      obtain ⟨rfl, rfl⟩ := member
      exact ⟨given, rfl, rfl⟩
    · simp [writes, same] at member
  | importSnapshot snapshot =>
    obtain ⟨given, -, form⟩ := List.mem_map.1 member
    obtain ⟨rfl, rfl⟩ := Write.put.inj form
    exact ⟨given, rfl, rfl⟩
  | delete other erased =>
    by_cases same : other = shelf <;> simp [writes, same] at member

theorem lastPut_normalized {operations : List StoreOperation} {shelf : Shelf} {key : String}
    {record : shelf.Record} (last : Write.LastPut (allWrites shelf operations) key record) :
    ∃ given, record = shelf.normalized given ∧ key = shelf.key record := by
  obtain ⟨operation, -, member⟩ := List.mem_flatMap.1 last.mem
  exact mem_writes_put member

end StoreOperation

namespace Store

theorem ext_table {s t : Store} (same : ∀ shelf, s.table shelf = t.table shelf) : s = t := by
  have bindings : s.bindings = t.bindings := same .bindings
  have propagation : s.propagation = t.propagation := same (.policies .propagation)
  have overrides : s.overrides = t.overrides := same (.policies .override)
  have clusters : s.clusters = t.clusters := same .clusters
  cases s
  cases t
  simp only at bindings propagation overrides clusters
  rw [bindings, propagation, overrides, clusters]

theorem table_put (s : Store) (shelf : Shelf) (record : shelf.Record) :
    (s.put shelf record).table shelf = (s.table shelf).write shelf.recorded (shelf.written record) := by
  cases shelf with
  | bindings => rfl
  | policies kind => cases kind <;> rfl
  | clusters => rfl

theorem table_put_of_ne (s : Store) {shelf other : Shelf} (record : other.Record) (apart : other ≠ shelf) :
    (s.put other record).table shelf = s.table shelf := by
  rcases other with _ | (_ | _) | _ <;> rcases shelf with _ | (_ | _) | _ <;> first | rfl | exact absurd rfl apart

theorem table_delete (s : Store) (shelf : Shelf) (key : String) :
    (s.delete shelf key).table shelf = (s.table shelf).erase key := by
  cases shelf with
  | bindings => rfl
  | policies kind => cases kind <;> rfl
  | clusters => rfl

theorem table_delete_of_ne (s : Store) {shelf other : Shelf} (key : String) (apart : other ≠ shelf) :
    (s.delete other key).table shelf = s.table shelf := by
  rcases other with _ | (_ | _) | _ <;> rcases shelf with _ | (_ | _) | _ <;> first | rfl | exact absurd rfl apart

theorem table_importSnapshot (s : Store) (snapshot : Snapshot) (shelf : Shelf) :
    (s.importSnapshot snapshot).table shelf =
      ((snapshot.records shelf).map shelf.written).foldl (Table.write shelf.recorded) (s.table shelf) := by
  rw [List.foldl_map]
  rcases shelf with _ | (_ | _) | _
  · rfl
  · exact List.foldl_map
  · exact List.foldl_map
  · rfl

/-- An operation does to each shelf what its writes to that shelf do. -/
theorem table_perform (s : Store) (operation : StoreOperation) (shelf : Shelf) :
    (s.perform operation).1.table shelf =
      (operation.writes shelf).foldl (Table.write shelf.recorded) (s.table shelf) := by
  cases operation with
  | put other record =>
    by_cases same : other = shelf
    · subst same
      simp only [perform, StoreOperation.writes, dite_true]
      exact table_put s other record
    · simp only [perform, StoreOperation.writes, same, dite_false]
      exact table_put_of_ne s record same
  | importSnapshot snapshot => exact table_importSnapshot s snapshot shelf
  | delete other key =>
    by_cases same : other = shelf
    · subst same
      simp only [perform, StoreOperation.writes, if_true]
      exact table_delete s other key
    · simp only [perform, StoreOperation.writes, same, if_false]
      exact table_delete_of_ne s key same

theorem table_performs (s : Store) (operations : List StoreOperation) (shelf : Shelf) :
    (operations.foldl (fun s operation => (s.perform operation).1) s).table shelf =
      (StoreOperation.allWrites shelf operations).foldl (Table.write shelf.recorded) (s.table shelf) := by
  induction operations generalizing s with
  | nil => rfl
  | cons operation operations ih =>
    rw [List.foldl_cons, ih, table_perform, StoreOperation.allWrites, StoreOperation.allWrites,
      List.flatMap_cons, List.foldl_append]

theorem table_empty (shelf : Shelf) : empty.table shelf = .empty := by
  rcases shelf with _ | (_ | _) | _ <;> rfl

theorem get?_run_iff {operations : List StoreOperation} {shelf : Shelf} {key : String}
    {record : shelf.Record} :
    ((run operations).table shelf).get? key = some record ↔
      ∃ written, Write.LastPut (StoreOperation.allWrites shelf operations) key written ∧
        record = shelf.recorded written := by
  rw [run, table_performs, table_empty, Table.get?_written_iff]

theorem keyed_run (operations : List StoreOperation) (shelf : Shelf) :
    ((run operations).table shelf).Keyed shelf.key := by
  intro key record found
  obtain ⟨written, last, rfl⟩ := get?_run_iff.1 found
  obtain ⟨given, -, keyed⟩ := StoreOperation.lastPut_normalized last
  rw [Shelf.key_recorded, keyed]

theorem normalized_space_ne (policy : Policy) : policy.normalized.space ≠ some "" := by
  intro blank
  have kept := (Option.filter_eq_some_iff.1 blank).2
  exact absurd kept (by decide)

theorem spaced_run {operations : List StoreOperation} {kind : PolicyKind} {key : String} {policy : Policy}
    (found : ((run operations).policies kind).get? key = some policy) : policy.space ≠ some "" := by
  have inTable : ((run operations).table (.policies kind)).get? key = some policy := found
  obtain ⟨written, last, rfl⟩ := get?_run_iff.1 inTable
  obtain ⟨given, rfl, -⟩ := StoreOperation.lastPut_normalized last
  exact normalized_space_ne given

end Store

end ReplicaAtlas
