import Mathlib.Data.List.Perm.Basic
import ReplicaAtlas.Member.TaskSet

/-!
The calls that activities make. A state owes calls if every step makes just those that are not owed after it any more,
so that a run has made what was owed at its start but for what is owed at its end. A set of tasks owes what its tasks
owe, whatever the order in which they run.
-/
namespace ReplicaAtlas

namespace Activity
variable {State Call Result : Type}

/-- The states owe calls: a step pays the calls it makes, and with a result nothing is owed. -/
structure Pays (activity : Activity State Call Result) (owes : State → List Call) : Prop where
  step : ∀ {before calls after}, activity.Step before calls after → (calls ++ owes after).Perm (owes before)
  result : ∀ {state found}, activity.result? state = some found → owes state = []

namespace Pays

variable {activity : Activity State Call Result} {owes : State → List Call}

theorem runs (pays : activity.Pays owes) {before after : State} {calls : List Call}
    (run : activity.Runs before calls after) : (calls ++ owes after).Perm (owes before) := by
  induction run with
  | refl state => exact .refl _
  | step first rest ih =>
    rw [List.append_assoc]
    exact (ih.append_left _).trans (pays.step first)

theorem concludes (pays : activity.Pays owes) {before after : State} {calls : List Call} {found : Result}
    (run : activity.Runs before calls after) (ended : activity.result? after = some found) :
    calls.Perm (owes before) := by
  have paid := pays.runs run
  rw [pays.result ended, List.append_nil] at paid
  exact paid

end Pays

end Activity

namespace TaskSet
variable {State Call Result : Type}

def taskOwes (owes : State → List Call) : Task State Result → List Call
  | .waiting state => owes state
  | .running state => owes state
  | .finished _ => []
  | .collected => []

def setOwes (owes : State → List Call) (set : TaskSet State Result) : List Call :=
  set.tasks.flatMap (taskOwes owes)

theorem setOwes_start (owes : State → List Call) (states : List State) :
    setOwes owes (start states : TaskSet State Result) = states.flatMap owes := by
  rw [setOwes, start, List.flatMap_map]
  rfl

theorem setOwes_of_isDone (owes : State → List Call) {set : TaskSet State Result} (done : set.isDone = true) :
    setOwes owes set = [] := by
  apply List.flatMap_eq_nil_iff.2
  intro task member
  have collected := List.all_eq_true.1 done task member
  cases task with
  | collected => rfl
  | waiting state => simp [Task.isCollected] at collected
  | running state => simp [Task.isCollected] at collected
  | finished result => simp [Task.isCollected] at collected

theorem flatMap_set_perm {Item : Type} {brings : Item → List Call} {items : List Item} {position : Nat}
    {old new : Item} {calls : List Call} (present : items[position]? = some old)
    (paid : (calls ++ brings new).Perm (brings old)) :
    (calls ++ (items.set position new).flatMap brings).Perm (items.flatMap brings) := by
  induction items generalizing position with
  | nil => simp at present
  | cons first rest ih =>
    cases position with
    | zero =>
      cases present
      rw [List.set_cons_zero, List.flatMap_cons, List.flatMap_cons, ← List.append_assoc]
      exact paid.append_right _
    | succ position =>
      have later := ih (by simpa using present)
      rw [List.set_cons_succ, List.flatMap_cons, List.flatMap_cons]
      exact (List.perm_append_comm_assoc ..).trans (later.append_left _)

theorem pays_activity {activity : Activity State Call Result} {owes : State → List Call}
    (pays : activity.Pays owes) (permits : Nat) : (TaskSet.activity activity permits).Pays (setOwes owes) where
  step := by
    intro before calls after step
    cases step with
    | grant task free => exact flatMap_set_perm task (.refl _)
    | advance task step => exact flatMap_set_perm task (pays.step step)
    | finish task ended =>
      refine flatMap_set_perm task ?_
      rw [taskOwes, taskOwes, pays.result ended]
      exact .refl _
    | collect task => exact flatMap_set_perm task (.refl _)
  result := by
    intro set found ended
    simp only [TaskSet.activity] at ended
    split at ended
    case isTrue done => exact setOwes_of_isDone owes done
    case isFalse => cases ended

end TaskSet

end ReplicaAtlas
