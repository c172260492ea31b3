/-!
Sets of tasks that run side by side. A task waits for one of a number of permits, runs step by step, and hands its
result over together with its position; results are collected into one slot for each position, in whatever order
the tasks finish. What a task does is an activity, and so is a whole set, so that a task may run a set of its own.
-/
namespace ReplicaAtlas

/-- Steps between states, each with the calls it makes, and the states that hold a result. -/
structure Activity (State Call Result : Type) where
  Step : State → List Call → State → Prop
  result? : State → Option Result

namespace Activity
variable {State Call Result : Type}

inductive Runs (activity : Activity State Call Result) : State → List Call → State → Prop
  | refl (state) : Runs activity state [] state
  | step {before middle after calls later} (first : activity.Step before calls middle)
      (rest : Runs activity middle later after) : Runs activity before (calls ++ later) after

end Activity

/-- A task waits for a permit, which it holds while it runs. -/
inductive Task (State Result : Type) where
  | waiting (state : State)
  | running (state : State)
  | finished (result : Result)
  | collected

structure TaskSet (State Result : Type) where
  tasks : List (Task State Result)
  slots : List (Option Result)

namespace Task
variable {State Result : Type}

def isRunning : Task State Result → Bool
  | .running _ => true
  | _ => false

def isCollected : Task State Result → Bool
  | .collected => true
  | _ => false

end Task

namespace TaskSet
variable {State Call Result : Type}

def start (states : List State) : TaskSet State Result := ⟨states.map .waiting, states.map fun _ => none⟩

def taken (set : TaskSet State Result) : Nat := set.tasks.countP Task.isRunning

def isDone (set : TaskSet State Result) : Bool := set.tasks.all Task.isCollected

inductive Step (activity : Activity State Call Result) (permits : Nat) :
    TaskSet State Result → List Call → TaskSet State Result → Prop
  | grant {set position state} (task : set.tasks[position]? = some (.waiting state))
      (free : set.taken < permits) :
      Step activity permits set [] { set with tasks := set.tasks.set position (.running state) }
  | advance {set position state calls next} (task : set.tasks[position]? = some (.running state))
      (step : activity.Step state calls next) :
      Step activity permits set calls { set with tasks := set.tasks.set position (.running next) }
  | finish {set position state result} (task : set.tasks[position]? = some (.running state))
      (ended : activity.result? state = some result) :
      Step activity permits set [] { set with tasks := set.tasks.set position (.finished result) }
  | collect {set position result} (task : set.tasks[position]? = some (.finished result)) :
      Step activity permits set []
        ⟨set.tasks.set position .collected, set.slots.set position (some result)⟩

def activity (activity : Activity State Call Result) (permits : Nat) :
    Activity (TaskSet State Result) Call (List (Option Result)) where
  Step := Step activity permits
  result? set := if set.isDone then some set.slots else none

end TaskSet

end ReplicaAtlas
