import Mathlib.Tactic.SplitIfs
import ReplicaAtlas.Phase

/-!
The phase of a whole binding. Of all its conditions the first one of type Scheduled and the first one of type
FullyApplied count, and the phase and its message are settled by what these two say and by the targets. One of the
first four rules always holds, so no phase is left undetermined.
-/
namespace ReplicaAtlas

namespace Condition

/-- The first condition of a type in a list, if there is one. -/
inductive IsFirst (type : String) : List Condition → Option Condition → Prop
  | absent {conditions : List Condition} (others : ∀ c ∈ conditions, c.type ≠ type) : IsFirst type conditions none
  | found {before : List Condition} (others : ∀ c ∈ before, c.type ≠ type) {c : Condition} (same : c.type = type)
      (after : List Condition) : IsFirst type (before ++ c :: after) (some c)

def Denies (condition : Option Condition) : Prop := ∃ c, condition = some c ∧ c.status = .no

/-- What is known of a condition: one of unknown status is none. -/
def known? (condition : Option Condition) : Option Condition := condition.filter (·.status ≠ .unknown)

theorem isFirst_iff {type : String} {conditions : List Condition} {first : Option Condition} :
    IsFirst type conditions first ↔ conditions.find? (·.type = type) = first := by
  constructor
  · rintro (others | @⟨before, others, c, same, after⟩)
    · simpa using others
    · refine List.find?_eq_some_iff_append.2 ⟨decide_eq_true same, before, after, rfl, ?_⟩
      intro other mem
      rw [decide_eq_false (others other mem)]
      rfl
  · rintro rfl
    cases found : conditions.find? (·.type = type) with
    | none => exact .absent (by simpa using found)
    | some c =>
      obtain ⟨same, before, after, rfl, others⟩ := List.find?_eq_some_iff_append.1 found
      exact .found (fun other mem => by simpa using others other mem) (of_decide_eq_true same) after

theorem denies_iff (condition : Option Condition) : Denies condition ↔ condition.map (·.status) = some .no := by
  rw [Option.map_eq_some_iff]
  rfl

instance (condition : Option Condition) : Decidable (Denies condition) :=
  decidable_of_iff _ (denies_iff condition).symm

theorem known?_of_denies {condition : Option Condition} (denies : Denies condition) :
    known? condition = condition := by
  obtain ⟨c, rfl, status⟩ := denies
  simp [known?, status]

theorem denies_known? (condition : Option Condition) : Denies (known? condition) ↔ Denies condition := by
  constructor
  · rintro ⟨c, known, status⟩
    exact ⟨c, Option.eq_some_of_filter_eq_some known, status⟩
  · intro denies
    rwa [known?_of_denies denies]

end Condition

namespace Phase.Rule

variable (scheduled fullyApplied : Option Truth) (hasTargets : Bool)

/-- Whatever passes the second rule has clusters, so the fourth one holds of it if the third one does not. -/
theorem ofParts_eq : ofParts scheduled fullyApplied hasTargets =
    if scheduled = some .no then .unscheduled
    else if hasTargets = false then .untargeted
    else if fullyApplied = some .no then .unapplied
    else .placed := by
  cases hasTargets with
  | false => rfl
  | true => simp only [ofParts, Bool.or_true, if_true, Bool.not_true, Bool.true_eq_false]; rfl

end Phase.Rule

namespace Binding

open Condition (Denies known?)

variable (b : Binding)

theorem phaseRule_eq : b.phaseRule =
    if Denies b.scheduled? then .unscheduled
    else if b.targets = [] then .untargeted
    else if Denies b.fullyApplied? then .unapplied
    else .placed := by
  simp only [phaseRule, Phase.Rule.ofParts_eq, Condition.denies_iff, Bool.not_eq_false', List.isEmpty_iff]

theorem messageOr_some (c : Condition) (otherwise : String) :
    messageOr (some c) otherwise = if c.message = "" then otherwise else c.message := by
  by_cases empty : c.message = ""
  · simp [messageOr, Option.filter_some, empty]
  · simp [messageOr, Option.filter_some, empty]

theorem messageOr_ne_empty (condition : Option Condition) {otherwise : String} (some : otherwise ≠ "") :
    messageOr condition otherwise ≠ "" := by
  cases condition with
  | none => exact some
  | some c =>
    rw [messageOr_some]
    split_ifs with empty
    · exact some
    · exact empty

theorem phaseReport_eq : b.phaseReport =
    if Denies b.scheduled? then ⟨.failed, messageOr b.scheduled? "scheduling failed"⟩
    else if b.targets = [] then ⟨.pending, "no target clusters assigned yet"⟩
    else if Denies b.fullyApplied? then ⟨.pending, messageOr b.fullyApplied? "not all replicas have been applied"⟩
    else ⟨.scheduled, s!"{b.plannedReplicas} replicas scheduled to {b.targets.length} clusters"⟩ := by
  have rule := b.phaseRule_eq
  split_ifs at rule ⊢ with denied untargeted unapplied
  · have found : b.scheduled?.isSome := denied.elim fun _ found => found.1 ▸ rfl
    simp only [phaseReport, phaseMessage, phase, rule, Phase.Rule.phase, found, if_true]
  · have none : b.targets.isEmpty := List.isEmpty_iff.2 untargeted
    simp only [phaseReport, phaseMessage, phase, rule, Phase.Rule.phase, none, if_true]
  · have some : ¬ b.targets.isEmpty := mt List.isEmpty_iff.1 untargeted
    simp only [phaseReport, phaseMessage, phase, rule, Phase.Rule.phase, some, Bool.false_eq_true, if_false]
  · simp only [phaseReport, phaseMessage, phase, rule, Phase.Rule.phase]

theorem reported_failed_iff : b.phaseReport.phase = .failed ↔ Denies b.scheduled? := by
  rw [phaseReport_eq]
  split_ifs with denied <;> simp [denied]

theorem reported_pending_iff :
    b.phaseReport.phase = .pending ↔ ¬ Denies b.scheduled? ∧ (b.targets = [] ∨ Denies b.fullyApplied?) := by
  rw [phaseReport_eq]
  split_ifs with denied untargeted unapplied <;> simp [*]

theorem reported_scheduled_iff :
    b.phaseReport.phase = .scheduled ↔ ¬ Denies b.scheduled? ∧ b.targets ≠ [] ∧ ¬ Denies b.fullyApplied? := by
  rw [phaseReport_eq]
  split_ifs with denied untargeted unapplied <;> simp [*]

theorem reported_message_ne_empty : b.phaseReport.message ≠ "" := by
  rw [phaseReport_eq]
  split_ifs
  · exact messageOr_ne_empty _ (by decide)
  · decide
  · exact messageOr_ne_empty _ (by decide)
  · simp

/-- A denied condition is a known one, and only denied conditions are quoted in a message. -/
theorem phaseReport_eq_of_known {b other : Binding} (scheduled : known? other.scheduled? = known? b.scheduled?)
    (fullyApplied : known? other.fullyApplied? = known? b.fullyApplied?) (targets : other.targets = b.targets) :
    other.phaseReport = b.phaseReport := by
  have sameScheduled : Denies other.scheduled? ↔ Denies b.scheduled? := by
    rw [← Condition.denies_known?, scheduled, Condition.denies_known?]
  have sameApplied : Denies other.fullyApplied? ↔ Denies b.fullyApplied? := by
    rw [← Condition.denies_known?, fullyApplied, Condition.denies_known?]
  simp only [phaseReport_eq, sameScheduled, sameApplied, plannedReplicas, targets]
  split_ifs with denied untargeted unapplied
  · rw [← Condition.known?_of_denies denied, ← Condition.known?_of_denies (sameScheduled.2 denied), scheduled]
  · rfl
  · rw [← Condition.known?_of_denies unapplied, ← Condition.known?_of_denies (sameApplied.2 unapplied), fullyApplied]
  · rfl

/-- What the first conditions of the two types, `s` and `f`, tell of the phase that is reported and of its message. -/
structure TellsPhase (b : Binding) (s f : Option Condition) : Prop where
  failed : b.phaseReport.phase = .failed ↔ Denies s
  pending : b.phaseReport.phase = .pending ↔ ¬ Denies s ∧ (b.targets = [] ∨ Denies f)
  scheduled : b.phaseReport.phase = .scheduled ↔ ¬ Denies s ∧ b.targets ≠ [] ∧ ¬ Denies f
  ruled : b.phaseReport.phase = b.phaseRule.phase
  determined : b.phaseRule ≠ .undetermined
  message : b.phaseReport.message ≠ ""
  failure : b.phaseReport.phase = .failed → ∃ c, s = some c ∧
    b.phaseReport.message = if c.message = "" then "scheduling failed" else c.message
  wait : b.phaseReport.phase = .pending → b.targets = [] →
    b.phaseReport.message = "no target clusters assigned yet"
  delay : b.phaseReport.phase = .pending → b.targets ≠ [] → ∃ c, f = some c ∧
    b.phaseReport.message = if c.message = "" then "not all replicas have been applied" else c.message
  success : b.phaseReport.phase = .scheduled →
    b.phaseReport.message = s!"{b.plannedReplicas} replicas scheduled to {b.targets.length} clusters"
  settled : ∀ (other : Binding) (s' f' : Option Condition), Condition.IsFirst "Scheduled" other.conditions s' →
    Condition.IsFirst "FullyApplied" other.conditions f' → known? s' = known? s → known? f' = known? f →
    other.targets = b.targets → other.phaseReport = b.phaseReport

theorem first_conditions_tell_phase {s f : Option Condition}
    (scheduled : Condition.IsFirst "Scheduled" b.conditions s)
    (fullyApplied : Condition.IsFirst "FullyApplied" b.conditions f) : b.TellsPhase s f := by
  obtain rfl : b.scheduled? = s := Condition.isFirst_iff.1 scheduled
  obtain rfl : b.fullyApplied? = f := Condition.isFirst_iff.1 fullyApplied
  constructor
  case failed => exact b.reported_failed_iff
  case pending => exact b.reported_pending_iff
  case scheduled => exact b.reported_scheduled_iff
  case ruled => rfl
  case determined =>
    rw [phaseRule_eq]
    split_ifs <;> decide
  case message => exact b.reported_message_ne_empty
  case failure =>
    intro failed
    have denied := b.reported_failed_iff.1 failed
    have ⟨c, found, _⟩ := denied
    refine ⟨c, found, ?_⟩
    rw [phaseReport_eq, if_pos denied, found, messageOr_some]
  case wait =>
    intro pending untargeted
    have ⟨undenied, _⟩ := b.reported_pending_iff.1 pending
    rw [phaseReport_eq, if_neg undenied, if_pos untargeted]
  case delay =>
    intro pending targeted
    obtain ⟨undenied, untargeted | unapplied⟩ := b.reported_pending_iff.1 pending
    · exact absurd untargeted targeted
    · have ⟨c, found, _⟩ := unapplied
      refine ⟨c, found, ?_⟩
      rw [phaseReport_eq, if_neg undenied, if_neg targeted, if_pos unapplied, found, messageOr_some]
  case success =>
    intro scheduled
    have ⟨undenied, targeted, applied⟩ := b.reported_scheduled_iff.1 scheduled
    rw [phaseReport_eq, if_neg undenied, if_neg targeted, if_neg applied]
  case settled =>
    intro other s' f' firstScheduled firstApplied sameScheduled sameApplied targets
    rw [← Condition.isFirst_iff.1 firstScheduled] at sameScheduled
    rw [← Condition.isFirst_iff.1 firstApplied] at sameApplied
    exact phaseReport_eq_of_known sameScheduled sameApplied targets

/-- The first condition of either type is followed by another one that says the contrary. -/
def contradicted : Binding where
  space := "shop"
  name := "web"
  resource := WorkloadRef.layout.blank
  targets := [⟨"west", 3⟩]
  reports := []
  conditions := [⟨"Ready", .no, "", "2 of 3 ready"⟩, ⟨"Scheduled", .unknown, "", ""⟩,
    ⟨"FullyApplied", .no, "", "2 of 3 applied"⟩, ⟨"Scheduled", .no, "", "no room"⟩, ⟨"FullyApplied", .yes, "", ""⟩]

def refused : Binding := { contradicted with conditions := contradicted.conditions.drop 3 }

theorem first_conditions_tell_phase_contradicted :
    (∃ s f, Condition.IsFirst "Scheduled" contradicted.conditions s ∧
      Condition.IsFirst "FullyApplied" contradicted.conditions f ∧ contradicted.TellsPhase s f ∧
      contradicted.phaseReport = ⟨.pending, "2 of 3 applied"⟩) ∧
    ∃ s f, Condition.IsFirst "Scheduled" refused.conditions s ∧ Condition.IsFirst "FullyApplied" refused.conditions f ∧
      refused.TellsPhase s f ∧ refused.phaseReport = ⟨.failed, "no room"⟩ := by
  have first {type : String} {conditions : List Condition} {c : Condition}
      (found : conditions.find? (·.type = type) = some c) : Condition.IsFirst type conditions (some c) :=
    Condition.isFirst_iff.2 found
  have scheduled : Condition.IsFirst "Scheduled" contradicted.conditions (some ⟨"Scheduled", .unknown, "", ""⟩) :=
    first (by decide)
  have fullyApplied :
      Condition.IsFirst "FullyApplied" contradicted.conditions (some ⟨"FullyApplied", .no, "", "2 of 3 applied"⟩) :=
    first (by decide)
  have denied : Condition.IsFirst "Scheduled" refused.conditions (some ⟨"Scheduled", .no, "", "no room"⟩) :=
    first (by decide)
  have granted : Condition.IsFirst "FullyApplied" refused.conditions (some ⟨"FullyApplied", .yes, "", ""⟩) :=
    first (by decide)
  constructor
  · exact ⟨_, _, scheduled, fullyApplied, contradicted.first_conditions_tell_phase scheduled fullyApplied, by decide⟩
  · exact ⟨_, _, denied, granted, refused.first_conditions_tell_phase denied granted, by decide⟩

end Binding

end ReplicaAtlas
