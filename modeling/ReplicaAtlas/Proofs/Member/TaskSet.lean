import ReplicaAtlas.Member.TaskSet
import Mathlib.Data.List.Basic
import Mathlib.Order.WellFounded

/-!
Sets of tasks come to one result in every order of their steps. If what a task does determines its result, then
so does the set, whose slots are the results of its tasks by position; and if every task keeps going and ends,
then so does the set, as long as there is a permit. Both carry over to sets whose tasks run sets.
-/
namespace ReplicaAtlas

namespace Activity
variable {State Call Result : Type}

/-- An activity that ends, in any order of its steps, with the results that its states agree on. -/
structure Determines (activity : Activity State Call Result) (agrees : State → Result → Prop)
    (distance : State → Nat) : Prop where
  step : ∀ {before calls after result}, activity.Step before calls after → agrees before result →
    agrees after result
  result : ∀ {state found result}, activity.result? state = some found → agrees state result → found = result
  progress : ∀ {state result}, agrees state result →
    (∃ found, activity.result? state = some found) ∨ ∃ calls next, activity.Step state calls next
  descends : ∀ {before calls after}, activity.Step before calls after → distance after < distance before

namespace Determines

variable {activity : Activity State Call Result} {agrees : State → Result → Prop} {distance : State → Nat}

theorem runs (determines : activity.Determines agrees distance) {before after : State} {calls : List Call}
    {result : Result} (run : activity.Runs before calls after) (agree : agrees before result) :
    agrees after result := by
  induction run with
  | refl state => exact agree
  | step first rest ih => exact ih (determines.step first agree)

theorem concludes (determines : activity.Determines agrees distance) {state : State} {result : Result}
    (agree : agrees state result) :
    ∃ calls final, activity.Runs state calls final ∧ activity.result? final = some result := by
  induction bound : distance state using Nat.strong_induction_on generalizing state with
  | _ n ih =>
    subst bound
    rcases determines.progress agree with ⟨found, ended⟩ | ⟨calls, next, step⟩
    · have same := determines.result ended agree
      subst same
      exact ⟨[], state, .refl state, ended⟩
    · obtain ⟨later, final, run, ended⟩ := ih _ (determines.descends step) (determines.step step agree) rfl
      exact ⟨calls ++ later, final, .step step run, ended⟩

theorem wellFounded (determines : activity.Determines agrees distance) :
    WellFounded fun after before => ∃ calls, activity.Step before calls after := by
  refine Subrelation.wf ?_ (InvImage.wf distance Nat.lt_wfRel.wf)
  intro after before step
  obtain ⟨calls, step⟩ := step
  exact determines.descends step

end Determines

end Activity

namespace TaskSet
variable {State Call Result : Type}

def TaskAgrees (agrees : State → Result → Prop) (slot : Option Result) (result : Result) :
    Task State Result → Prop
  | .waiting state => agrees state result
  | .running state => agrees state result
  | .finished found => found = result
  | .collected => slot = some result

/-- The results that the tasks of a set will have put into their slots. -/
structure Agrees (agrees : State → Result → Prop) (set : TaskSet State Result) (results : List Result) :
    Prop where
  tasks : set.tasks.length = results.length
  slots : set.slots.length = results.length
  each : ∀ {position : Nat} {task : Task State Result} {slot : Option Result} {result : Result},
    set.tasks[position]? = some task → set.slots[position]? = some slot → results[position]? = some result →
      TaskAgrees agrees slot result task

theorem Agrees.start {agrees : State → Result → Prop} {states : List State} {results : List Result}
    (same : states.length = results.length)
    (each : ∀ {position : Nat} {state : State} {result : Result}, states[position]? = some state →
      results[position]? = some result → agrees state result) :
    Agrees agrees (start states) results where
  tasks := by simpa [TaskSet.start] using same
  slots := by simpa [TaskSet.start] using same
  each := by
    intro position task slot result atTask _ atResult
    simp only [TaskSet.start, List.getElem?_map, Option.map_eq_some_iff] at atTask
    obtain ⟨state, atState, rfl⟩ := atTask
    exact each atState atResult

theorem Agrees.result_at {agrees : State → Result → Prop} {set : TaskSet State Result} {results : List Result}
    (agree : Agrees agrees set results) {position : Nat} {task : Task State Result}
    (atTask : set.tasks[position]? = some task) :
    ∃ slot result, set.slots[position]? = some slot ∧ results[position]? = some result ∧
      TaskAgrees agrees slot result task := by
  obtain ⟨bound, _⟩ := List.getElem?_eq_some_iff.1 atTask
  have slotBound : position < set.slots.length := by rw [agree.slots, ← agree.tasks]; exact bound
  have resultBound : position < results.length := by rw [← agree.tasks]; exact bound
  have atSlot := List.getElem?_eq_getElem slotBound
  have atResult := List.getElem?_eq_getElem resultBound
  exact ⟨_, _, atSlot, atResult, agree.each atTask atSlot atResult⟩

theorem Agrees.move {agrees : State → Result → Prop} {set : TaskSet State Result} {results : List Result}
    (agree : Agrees agrees set results) (position : Nat) (next : Task State Result)
    (moved : ∀ slot result, set.slots[position]? = some slot → results[position]? = some result →
      TaskAgrees agrees slot result next) :
    Agrees agrees { set with tasks := set.tasks.set position next } results where
  tasks := by rw [List.length_set]; exact agree.tasks
  slots := agree.slots
  each := by
    intro other task slot result atTask atSlot atResult
    rw [List.getElem?_set] at atTask
    split at atTask
    case isTrue same =>
      subst same
      split at atTask
      · cases atTask
        exact moved slot result atSlot atResult
      · cases atTask
    case isFalse => exact agree.each atTask atSlot atResult

theorem Agrees.collect {agrees : State → Result → Prop} {set : TaskSet State Result} {results : List Result}
    (agree : Agrees agrees set results) (position : Nat) (found : Result)
    (expected : ∀ result, results[position]? = some result → found = result) :
    Agrees agrees ⟨set.tasks.set position .collected, set.slots.set position (some found)⟩ results where
  tasks := by rw [List.length_set]; exact agree.tasks
  slots := by rw [List.length_set]; exact agree.slots
  each := by
    intro other task slot result atTask atSlot atResult
    rw [List.getElem?_set] at atTask atSlot
    by_cases same : position = other
    · subst same
      simp only [if_true] at atTask atSlot
      split at atTask
      · cases atTask
        split at atSlot
        · cases atSlot
          exact congrArg some (expected result atResult)
        · cases atSlot
      · cases atTask
    · rw [if_neg same] at atTask atSlot
      exact agree.each atTask atSlot atResult

theorem Agrees.step {activity : Activity State Call Result} {agrees : State → Result → Prop}
    {distance : State → Nat} (determines : activity.Determines agrees distance) {permits : Nat}
    {before after : TaskSet State Result} {calls : List Call} {results : List Result}
    (step : Step activity permits before calls after) (agree : Agrees agrees before results) :
    Agrees agrees after results := by
  cases step with
  | grant task free =>
    refine agree.move _ _ fun slot result atSlot atResult => ?_
    have agreed := agree.each task atSlot atResult
    exact agreed
  | advance task step =>
    refine agree.move _ _ fun slot result atSlot atResult => ?_
    exact determines.step step (agree.each task atSlot atResult)
  | finish task ended =>
    refine agree.move _ _ fun slot result atSlot atResult => ?_
    exact determines.result ended (agree.each task atSlot atResult)
  | collect task =>
    refine agree.collect _ _ fun result atResult => ?_
    obtain ⟨slot, other, _, atOther, same⟩ := agree.result_at task
    have : other = result := Option.some.inj (atOther.symm.trans atResult)
    exact this ▸ same

theorem Agrees.slots_of_isDone {agrees : State → Result → Prop} {set : TaskSet State Result}
    {results : List Result} (agree : Agrees agrees set results) (done : set.isDone = true) :
    set.slots = results.map some := by
  apply List.ext_getElem?
  intro position
  by_cases bound : position < set.tasks.length
  · have atTask := List.getElem?_eq_getElem bound
    obtain ⟨slot, result, atSlot, atResult, filled⟩ := agree.result_at atTask
    have collected := List.all_eq_true.1 done _ (List.getElem_mem bound)
    cases task : set.tasks[position] with
    | collected =>
      rw [task] at filled
      rw [List.getElem?_map, atSlot, atResult]
      exact congrArg some filled
    | waiting state => simp [task, Task.isCollected] at collected
    | running state => simp [task, Task.isCollected] at collected
    | finished found => simp [task, Task.isCollected] at collected
  · have noTask := agree.tasks
    have noSlot := agree.slots
    rw [List.getElem?_eq_none (by omega), List.getElem?_map, List.getElem?_eq_none (by omega)]
    rfl

theorem exists_running {set : TaskSet State Result} (taken : 0 < set.taken) :
    ∃ (position : Nat) (state : State), set.tasks[position]? = some (.running state) := by
  obtain ⟨task, member, running⟩ := List.countP_pos_iff.1 taken
  obtain ⟨position, atTask⟩ := List.mem_iff_getElem?.1 member
  cases task with
  | running state => exact ⟨position, state, atTask⟩
  | waiting state => simp [Task.isRunning] at running
  | finished result => simp [Task.isRunning] at running
  | collected => simp [Task.isRunning] at running

theorem exists_uncollected {set : TaskSet State Result} (undone : set.isDone = false) :
    ∃ (position : Nat) (task : Task State Result), set.tasks[position]? = some task ∧ task ≠ .collected := by
  obtain ⟨task, member, open_⟩ := List.all_eq_false.1 undone
  obtain ⟨position, atTask⟩ := List.mem_iff_getElem?.1 member
  refine ⟨position, task, atTask, ?_⟩
  rintro rfl
  exact open_ rfl

theorem Agrees.advance {activity : Activity State Call Result} {agrees : State → Result → Prop}
    {distance : State → Nat} (determines : activity.Determines agrees distance) (permits : Nat)
    {set : TaskSet State Result} {results : List Result} (agree : Agrees agrees set results) {position : Nat}
    {state : State} (atTask : set.tasks[position]? = some (.running state)) :
    ∃ calls next, Step activity permits set calls next := by
  obtain ⟨slot, result, _, _, agreed⟩ := agree.result_at atTask
  rcases determines.progress agreed with ⟨found, ended⟩ | ⟨calls, next, step⟩
  · exact ⟨_, _, .finish atTask ended⟩
  · exact ⟨_, _, .advance atTask step⟩

/-- With a permit at all, a set stands still only when every task is collected. -/
theorem Agrees.progress {activity : Activity State Call Result} {agrees : State → Result → Prop}
    {distance : State → Nat} (determines : activity.Determines agrees distance) {permits : Nat}
    (permitted : 0 < permits) {set : TaskSet State Result} {results : List Result}
    (agree : Agrees agrees set results) (undone : set.isDone = false) :
    ∃ calls next, Step activity permits set calls next := by
  obtain ⟨position, task, atTask, uncollected⟩ := exists_uncollected undone
  cases task with
  | finished result => exact ⟨_, _, .collect atTask⟩
  | running state => exact agree.advance determines permits atTask
  | collected => exact absurd rfl uncollected
  | waiting state =>
    -- a permit is free for this task, or it is taken by one that runs
    by_cases free : set.taken < permits
    · exact ⟨_, _, .grant atTask free⟩
    · obtain ⟨other, runner, atRunner⟩ := exists_running (show 0 < set.taken by omega)
      exact agree.advance determines permits atRunner

def taskDistance (distance : State → Nat) : Task State Result → Nat
  | .waiting state => distance state + 3
  | .running state => distance state + 2
  | .finished _ => 1
  | .collected => 0

def totalDistance (distance : State → Nat) (tasks : List (Task State Result)) : Nat :=
  tasks.foldr (fun task n => taskDistance distance task + n) 0

def distance (distance : State → Nat) (set : TaskSet State Result) : Nat := totalDistance distance set.tasks

theorem totalDistance_set (distance : State → Nat) {tasks : List (Task State Result)} {position : Nat}
    {old : Task State Result} (new : Task State Result) (present : tasks[position]? = some old) :
    totalDistance distance (tasks.set position new) + taskDistance distance old =
      totalDistance distance tasks + taskDistance distance new := by
  induction tasks generalizing position with
  | nil => simp at present
  | cons head rest ih =>
    cases position with
    | zero =>
      cases present
      simp only [List.set_cons_zero, totalDistance, List.foldr_cons]
      omega
    | succ position =>
      have inner := ih (by simpa using present)
      simp only [List.set_cons_succ, totalDistance, List.foldr_cons] at inner ⊢
      omega

theorem Step.descends {activity : Activity State Call Result} {agrees : State → Result → Prop}
    {measure : State → Nat} (determines : activity.Determines agrees measure) {permits : Nat}
    {before after : TaskSet State Result} {calls : List Call} (step : Step activity permits before calls after) :
    distance measure after < distance measure before := by
  cases step with
  | @grant position state task free =>
    have sum := totalDistance_set measure (.running state) task
    simp only [distance, taskDistance] at sum ⊢
    omega
  | @advance position state _ next task step =>
    have sum := totalDistance_set measure (.running next) task
    have less := determines.descends step
    simp only [distance, taskDistance] at sum ⊢
    omega
  | @finish position state result task ended =>
    have sum := totalDistance_set measure (.finished result) task
    simp only [distance, taskDistance] at sum ⊢
    omega
  | @collect position result task =>
    have sum := totalDistance_set measure .collected task
    simp only [distance, taskDistance] at sum ⊢
    omega

/-- A set determines the list of what its tasks determine. -/
theorem determines_activity {activity : Activity State Call Result} {agrees : State → Result → Prop}
    {measure : State → Nat} (determines : activity.Determines agrees measure) {permits : Nat}
    (permitted : 0 < permits) :
    (TaskSet.activity activity permits).Determines
      (fun set slots => ∃ results, slots = results.map some ∧ Agrees agrees set results) (distance measure) where
  step := by
    rintro before calls after slots step ⟨results, rfl, agree⟩
    exact ⟨results, rfl, agree.step determines step⟩
  result := by
    rintro set found slots ended ⟨results, rfl, agree⟩
    simp only [TaskSet.activity] at ended
    split at ended
    case isTrue done =>
      cases ended
      exact agree.slots_of_isDone done
    case isFalse => cases ended
  progress := by
    rintro set slots ⟨results, rfl, agree⟩
    cases done : set.isDone with
    | true => exact .inl ⟨set.slots, by simp [TaskSet.activity, done]⟩
    | false => exact .inr (agree.progress determines permitted done)
  descends := by
    intro before calls after step
    exact Step.descends determines step

end TaskSet

end ReplicaAtlas
