import ReplicaAtlas.Proofs.Store.Run
import ReplicaAtlas.Proofs.Text.ByteOrder

/-!
A store is four maps in which the last write to a key counts. After every run of operations from the empty
store each shelf holds the record of the last write under each key, listings are in the order of the bytes of
the keys, and an operation leaves all keys alone that it does not write. So a store is settled by the last
writes to its keys, in whatever order the other operations came.
-/
namespace ReplicaAtlas

namespace StoreOperation

def ReadsBack (operation : StoreOperation) : Prop :=
  ∀ shelf key record, .put key record ∈ operation.writes shelf → shelf.recorded record = record

theorem readsBack_put {shelf : Shelf} {record : shelf.Record}
    (same : shelf.recorded (shelf.normalized record) = shelf.normalized record) :
    (StoreOperation.put shelf record).ReadsBack := by
  intro other key written puts
  by_cases here : shelf = other
  · subst here
    simp only [writes, dite_true, List.mem_singleton, Shelf.written, Write.put.injEq] at puts
    obtain ⟨-, rfl⟩ := puts
    exact same
  · simp [writes, here] at puts

theorem readsBack_delete (shelf : Shelf) (key : String) : (StoreOperation.delete shelf key).ReadsBack := by
  intro other erased written puts
  by_cases here : shelf = other
  · simp [writes, here] at puts
  · simp [writes, here] at puts

end StoreOperation

namespace Shelf

def Ascending (shelf : Shelf) (records : List shelf.Record) : Prop :=
  records.Pairwise fun a b => Text.Utf8.bytes (shelf.key a) < Text.Utf8.bytes (shelf.key b)

end Shelf

namespace Store
open StoreOperation

/-- How a store stands after the operations, and what the next operation does to it. -/
structure LastWrites (operations : List StoreOperation) (s : Store) : Prop where
  held : ∀ shelf key record, (s.table shelf).get? key = some record ↔
    ∃ written, Write.LastPut (allWrites shelf operations) key written ∧ record = shelf.recorded written
  heldAsPut : (∀ operation ∈ operations, operation.ReadsBack) → ∀ shelf key record,
    (s.table shelf).get? key = some record ↔ Write.LastPut (allWrites shelf operations) key record
  keyed : ∀ shelf, (s.table shelf).Keyed shelf.key
  spaced : ∀ kind key policy, (s.policies kind).get? key = some policy → policy.space ≠ some ""
  bindingsAscending : ∀ space, Shelf.Ascending .bindings (s.bindingsIn space)
  policiesAscending : ∀ kind space, Shelf.Ascending (.policies kind) (s.policiesIn kind space)
  clusterPoliciesAscending : ∀ kind, Shelf.Ascending (.policies kind) (s.clusterPolicies kind)
  clustersAscending : Shelf.Ascending .clusters s.clusterList
  clusterListed : ∀ name c, s.cluster? name = some c ↔ c ∈ s.clusterList ∧ c.name = name
  deletes : ∀ shelf key, (s.perform (.delete shelf key)).2 = .deleted true ↔
    ∃ record, (s.table shelf).get? key = some record
  deletesNothing : ∀ shelf key, (s.perform (.delete shelf key)).2 = .deleted false ↔
    (s.table shelf).get? key = none
  otherKeys : ∀ (operation : StoreOperation) shelf key, (∀ write ∈ operation.writes shelf, write.key ≠ key) →
    ((s.perform operation).1.table shelf).get? key = (s.table shelf).get? key
  otherShelves : ∀ (operation : StoreOperation) shelf, operation.writes shelf = [] →
    (s.perform operation).1.table shelf = s.table shelf

theorem held_as_put {operations : List StoreOperation}
    (readsBack : ∀ operation ∈ operations, operation.ReadsBack) (shelf : Shelf) (key : String)
    (record : shelf.Record) :
    ((run operations).table shelf).get? key = some record ↔
      Write.LastPut (allWrites shelf operations) key record := by
  have same {written : shelf.Record} (last : Write.LastPut (allWrites shelf operations) key written) :
      shelf.recorded written = written := by
    obtain ⟨operation, member, puts⟩ := List.mem_flatMap.1 last.mem
    exact readsBack operation member shelf key written puts
  rw [get?_run_iff]
  constructor
  · rintro ⟨written, last, rfl⟩
    rw [same last]
    exact last
  · intro last
    exact ⟨record, last, (same last).symm⟩

theorem ascending_valuesWhere {s : Store} {shelf : Shelf} (keyed : (s.table shelf).Keyed shelf.key)
    (test : String → Bool) : shelf.Ascending ((s.table shelf).valuesWhere test) :=
  (keyed.valuesWhere_ascending test).imp Text.Utf8.bytes_lt_iff.2

theorem ascending_values {s : Store} {shelf : Shelf} (keyed : (s.table shelf).Keyed shelf.key) :
    shelf.Ascending (s.table shelf).values :=
  keyed.values_ascending.imp Text.Utf8.bytes_lt_iff.2

theorem ascending_bindingsIn {s : Store} (keyed : (s.table .bindings).Keyed (Shelf.key .bindings))
    (space : String) : Shelf.Ascending .bindings (s.bindingsIn space) := by
  unfold bindingsIn
  split
  · exact ascending_values keyed
  · exact ascending_valuesWhere keyed _

theorem perform_other_key (s : Store) (operation : StoreOperation) (shelf : Shelf) (key : String)
    (apart : ∀ write ∈ operation.writes shelf, write.key ≠ key) :
    ((s.perform operation).1.table shelf).get? key = (s.table shelf).get? key := by
  rw [table_perform]
  exact Table.get?_writes_of_ne _ apart

theorem perform_other_shelf (s : Store) (operation : StoreOperation) (shelf : Shelf)
    (untouched : operation.writes shelf = []) : (s.perform operation).1.table shelf = s.table shelf := by
  rw [table_perform, untouched, List.foldl_nil]

theorem perform_delete_answer (s : Store) (shelf : Shelf) (key : String) :
    (s.perform (.delete shelf key)).2 = .deleted ((s.table shelf).get? key).isSome := rfl

theorem lastWrites_run (operations : List StoreOperation) : LastWrites operations (run operations) where
  held _ _ _ := get?_run_iff
  heldAsPut := held_as_put
  keyed := keyed_run operations
  spaced _ _ _ := spaced_run
  bindingsAscending := ascending_bindingsIn (keyed_run operations .bindings)
  policiesAscending kind _ := ascending_valuesWhere (keyed_run operations (.policies kind)) _
  clusterPoliciesAscending kind := ascending_valuesWhere (keyed_run operations (.policies kind)) _
  clustersAscending := ascending_values (keyed_run operations .clusters)
  clusterListed _ _ := (keyed_run operations .clusters).get?_iff
  deletes shelf key := by
    rw [perform_delete_answer, StoreAnswer.deleted.injEq, Option.isSome_iff_exists]
  deletesNothing shelf key := by
    rw [perform_delete_answer, StoreAnswer.deleted.injEq, Option.isSome_eq_false_iff, Option.isNone_iff_eq_none]
  otherKeys := perform_other_key _
  otherShelves := perform_other_shelf _

theorem run_eq_of_lastPut {operations others : List StoreOperation}
    (same : ∀ shelf key record, Write.LastPut (allWrites shelf operations) key record ↔
      Write.LastPut (allWrites shelf others) key record) : run operations = run others := by
  refine ext_table fun shelf => Table.ext_get? fun key => Option.ext fun record => ?_
  simp only [get?_run_iff, same]

/-- After every run a store holds the last writes of the run, and runs with the same last writes leave the
same store, so that all of their listings agree. -/
theorem run_refines_last_writes (operations : List StoreOperation) :
    LastWrites operations (run operations) ∧
      ∀ others, (∀ shelf key record, Write.LastPut (allWrites shelf operations) key record ↔
        Write.LastPut (allWrites shelf others) key record) → run operations = run others :=
  ⟨lastWrites_run operations, fun _ same => run_eq_of_lastPut same⟩

def planOf (replicas : UInt32) : Binding :=
  ⟨"team", "api", WorkloadRef.layout.blank, [⟨"east", replicas⟩], [], []⟩

def spreadAnywhere : Policy := ⟨"spread", some "", [], .unrestricted⟩

def replanning : List StoreOperation :=
  [.put .bindings (planOf 1), .put (.policies .override) spreadAnywhere, .delete .bindings "team/api",
    .put .bindings (planOf 3)]

theorem replanning_readsBack : ∀ operation ∈ replanning, operation.ReadsBack := by
  intro operation member
  simp only [replanning, List.mem_cons, List.not_mem_nil, or_false] at member
  rcases member with rfl | rfl | rfl | rfl
  · exact readsBack_put rfl
  · exact readsBack_put rfl
  · exact readsBack_delete .bindings "team/api"
  · exact readsBack_put rfl

theorem replanning_lastPut (shelf : Shelf) (key : String) (record : shelf.Record) :
    Write.LastPut (allWrites shelf replanning) key record ↔
      Write.LastPut (allWrites shelf [.importSnapshot ⟨[], [planOf 3], [], [spreadAnywhere]⟩]) key record := by
  rcases shelf with _ | (_ | _) | _
  · change Write.LastPut [.put "team/api" (planOf 1), .erase "team/api", .put "team/api" (planOf 3)] key record ↔
      Write.LastPut [.put "team/api" (planOf 3)] key record
    refine (Write.lastPut_cons_of_overwritten ?_).trans (Write.lastPut_cons_of_overwritten ?_)
    · exact ⟨_, List.mem_cons_self, rfl⟩
    · exact ⟨_, List.mem_cons_self, rfl⟩
  · exact Iff.rfl
  · exact Iff.rfl
  · exact Iff.rfl

/-- The plan that came last counts, as if it had been imported with the policy and nothing else had been done. -/
theorem run_refines_last_writes_replanning :
    (∀ operation ∈ replanning, operation.ReadsBack) ∧
      (run replanning).bindings.get? "team/api" = some (planOf 3) ∧
      run replanning = run [.importSnapshot ⟨[], [planOf 3], [], [spreadAnywhere]⟩] := by
  obtain ⟨stands, settled⟩ := run_refines_last_writes replanning
  refine ⟨replanning_readsBack, ?_, settled _ replanning_lastPut⟩
  refine (stands.heldAsPut replanning_readsBack .bindings "team/api" (planOf 3)).2 ?_
  exact ⟨(allWrites .bindings replanning).dropLast, [], rfl, by simp⟩

end Store

end ReplicaAtlas
