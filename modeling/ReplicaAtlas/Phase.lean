import ReplicaAtlas.Binding

/-!
The phase of a binding, told by the first of five rules that holds. A binding that could not be scheduled has
failed; one without clusters, or whose replicas are not all applied, is pending; one that has clusters is
scheduled; what is left could not be determined. A condition of unknown status counts as none.
-/
namespace ReplicaAtlas

inductive Phase where
  | scheduled
  | pending
  | failed
  deriving DecidableEq, Repr

structure PhaseReport where
  phase : Phase
  message : String
  deriving DecidableEq, Repr

namespace Phase

def name : Phase → String
  | .scheduled => "Scheduled"
  | .pending => "Pending"
  | .failed => "Failed"

inductive Rule where
  | unscheduled
  | untargeted
  | unapplied
  | placed
  | undetermined
  deriving DecidableEq, Repr

namespace Rule

def ofParts (scheduled fullyApplied : Option Truth) (hasTargets : Bool) : Rule :=
  if scheduled = some .no then .unscheduled
  else if !hasTargets then .untargeted
  else if fullyApplied = some .no then .unapplied
  else if scheduled = some .yes || hasTargets then .placed
  else .undetermined

def phase : Rule → Phase
  | .unscheduled => .failed
  | .untargeted => .pending
  | .unapplied => .pending
  | .placed => .scheduled
  | .undetermined => .failed

end Rule

def ofParts (scheduled fullyApplied : Option Truth) (hasTargets : Bool) : Phase :=
  (Rule.ofParts scheduled fullyApplied hasTargets).phase

end Phase

namespace PhaseReport

def unbound : PhaseReport := ⟨.pending, "no binding found"⟩

def toJson (r : PhaseReport) : Json := .object [("phase", .text r.phase.name), ("message", .text r.message)]

end PhaseReport

namespace Binding

def scheduled? (b : Binding) : Option Condition := b.condition? "Scheduled"

def fullyApplied? (b : Binding) : Option Condition := b.condition? "FullyApplied"

def phaseRule (b : Binding) : Phase.Rule :=
  .ofParts (b.scheduled?.map (·.status)) (b.fullyApplied?.map (·.status)) (!b.targets.isEmpty)

def phase (b : Binding) : Phase := b.phaseRule.phase

def messageOr (condition : Option Condition) (otherwise : String) : String :=
  ((condition.map (·.message)).filter (!·.isEmpty)).getD otherwise

def phaseMessage (b : Binding) : String :=
  match b.phase with
  | .failed =>
    if b.scheduled?.isSome then messageOr b.scheduled? "scheduling failed"
    else "scheduling state could not be determined"
  | .pending =>
    if b.targets.isEmpty then "no target clusters assigned yet"
    else messageOr b.fullyApplied? "not all replicas have been applied"
  | .scheduled => s!"{b.plannedReplicas} replicas scheduled to {b.targets.length} clusters"

def phaseReport (b : Binding) : PhaseReport := ⟨b.phase, b.phaseMessage⟩

end Binding

end ReplicaAtlas
