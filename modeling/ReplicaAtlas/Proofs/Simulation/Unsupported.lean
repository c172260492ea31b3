import ReplicaAtlas.Proofs.Placement.Choice
import ReplicaAtlas.Proofs.Simulation.Conservation

/-!
When a simulation reports a strategy that it does not know. The simulation of a strategy looks at the name first, and
reports it whatever clusters are given. The simulation of a placement first looks for clusters that the placement
accepts and goes no further if there are none, so it reports the strategy beside such a cluster only.
-/
namespace ReplicaAtlas

def Strategy.Unknown (text : String) : Prop := text ≠ "Duplicated" ∧ text ≠ "Divided"

/-- A rule that leaves the strategy out has one all the same. -/
def PlacementRule.StrategyUnknown (rule : PlacementRule) : Prop := rule.strategy ≠ "" ∧ Strategy.Unknown rule.strategy

def PlacementRule.AcceptsSome (rule : PlacementRule) (clusters : List Cluster) : Prop :=
  ∃ c ∈ clusters, rule.Accepts c.name c.labels

def StrategyAnswer.unsupported (strategy : String) : StrategyAnswer :=
  ⟨[], [Simulation.unsupported strategy], false⟩

def PlacementAnswer.unsupported (strategy : String) : PlacementAnswer :=
  ⟨[], [Simulation.unsupported strategy], [], false⟩

def PlacementAnswer.nobody : PlacementAnswer := ⟨[], ["no registered cluster matches the placement"], [], true⟩

namespace Simulation

theorem named?_eq_none_iff (text : String) : Strategy.named? text = none ↔ Strategy.Unknown text := by
  rw [← Option.not_isSome_iff_eq_none, isSome_named?, not_or]
  rfl

theorem mode?_eq_none_iff (rule : PlacementRule) :
    mode? rule.strategy rule.staticWeights = none ↔ rule.StrategyUnknown := by
  rw [← Option.not_isSome_iff_eq_none, isSome_mode?, not_or, not_or]
  rfl

theorem unsupported_ne (strategy : String) : unsupported strategy ≠ "no target clusters given" := by
  intro same
  have text : unsupported strategy = "unsupported scheduling strategy: " ++ strategy := rfl
  rw [text] at same
  have first := congrArg (fun text : String => text.toList.head?) same
  simp [String.toList_append] at first

section Placement
variable {request : PlacementRequest} {clusters : List Cluster} (limits : SimulationLimits)

/-- Without a cluster to run on the strategy is not looked at. -/
theorem simulatePlacement_of_nobody (nobody : request.placement.chosenNames clusters = []) :
    simulatePlacement request clusters limits = .nobody := by
  unfold simulatePlacement
  simp only [nobody]
  rfl

theorem simulatePlacement_of_unknown (chosen : request.placement.chosenNames clusters ≠ [])
    (unknown : request.placement.StrategyUnknown) :
    simulatePlacement request clusters limits = .unsupported request.placement.strategy := by
  have some := List.isEmpty_eq_false_iff.2 chosen
  have mode := (mode?_eq_none_iff request.placement).2 unknown
  unfold simulatePlacement
  simp only [some, mode]
  rfl

theorem simulatePlacement_infeasible_iff :
    (simulatePlacement request clusters limits).feasible = false ↔
      request.placement.StrategyUnknown ∧ request.placement.AcceptsSome clusters := by
  rw [PlacementRule.AcceptsSome, ← PlacementRule.chosenNames_ne_nil_iff]
  by_cases nobody : request.placement.chosenNames clusters = []
  · rw [simulatePlacement_of_nobody limits nobody]
    simp [PlacementAnswer.nobody, nobody]
  · rw [simulatePlacement_feasible limits nobody, ← mode?_eq_none_iff,
      Option.isSome_eq_false_iff, Option.isNone_iff_eq_none]
    exact ⟨fun unknown => ⟨unknown, nobody⟩, fun unknown => unknown.1⟩

theorem simulatePlacement_unsupported_iff :
    simulatePlacement request clusters limits = .unsupported request.placement.strategy ↔
      request.placement.StrategyUnknown ∧ request.placement.AcceptsSome clusters := by
  constructor
  · intro reported
    have infeasible : (simulatePlacement request clusters limits).feasible = false := by rw [reported]; rfl
    exact (simulatePlacement_infeasible_iff limits).1 infeasible
  · intro ⟨unknown, accepted⟩
    exact simulatePlacement_of_unknown limits (PlacementRule.chosenNames_ne_nil_iff.2 accepted) unknown

theorem checkedSimulatePlacement_of_unknown (unknown : request.placement.StrategyUnknown) :
    checkedSimulatePlacement request clusters limits = .ok (simulatePlacement request clusters limits) := by
  have mode := (mode?_eq_none_iff request.placement).2 unknown
  unfold checkedSimulatePlacement simulatePlacement
  simp only [mode]
  split
  case isTrue nobody => rfl
  case isFalse some => rfl

end Placement

theorem simulateStrategy_of_unknown {request : StrategyRequest} (limits : SimulationLimits)
    (unknown : Strategy.Unknown request.strategy) :
    simulateStrategy request limits = .unsupported request.strategy := by
  have named := (named?_eq_none_iff request.strategy).2 unknown
  unfold simulateStrategy
  simp only [named]
  rfl

theorem simulateStrategy_unsupported_iff (request : StrategyRequest) (limits : SimulationLimits) :
    simulateStrategy request limits = .unsupported request.strategy ↔ Strategy.Unknown request.strategy := by
  refine ⟨fun reported => ?_, simulateStrategy_of_unknown limits⟩
  by_contra known
  obtain ⟨strategy, named⟩ := Option.ne_none_iff_exists'.1 (mt (named?_eq_none_iff _).1 known)
  by_cases nobody : request.clusters = []
  · -- Both answers are infeasible, and only their warnings differ.
    have warnings := congrArg StrategyAnswer.warnings reported
    unfold simulateStrategy at warnings
    simp only [named, nobody, StrategyAnswer.unsupported] at warnings
    exact unsupported_ne request.strategy (List.cons.inj warnings).1.symm
  · have feasible := simulateStrategy_feasible limits nobody
    rw [reported, named] at feasible
    exact absurd feasible Bool.false_ne_true

theorem checkedSimulateStrategy_of_unknown {request : StrategyRequest} (limits : SimulationLimits)
    (unknown : Strategy.Unknown request.strategy) :
    checkedSimulateStrategy request limits = .ok (simulateStrategy request limits) := by
  have named := (named?_eq_none_iff request.strategy).2 unknown
  unfold checkedSimulateStrategy simulateStrategy
  simp only [named]

structure ReportsBesideCluster (request : PlacementRequest) (clusters : List Cluster) (limits : SimulationLimits) :
    Prop where
  reported : simulatePlacement request clusters limits = .unsupported request.placement.strategy ↔
    request.placement.StrategyUnknown ∧ request.placement.AcceptsSome clusters
  infeasible : (simulatePlacement request clusters limits).feasible = false ↔
    request.placement.StrategyUnknown ∧ request.placement.AcceptsSome clusters
  unnoticed : ¬ request.placement.AcceptsSome clusters → simulatePlacement request clusters limits = .nobody
  words : request.placement.StrategyUnknown →
    checkedSimulatePlacement request clusters limits = .ok (simulatePlacement request clusters limits)

/-- Whatever the limit, the simulation of a placement reports just the unknown strategies of placements that accept a
registered cluster, and no strategy beside that. The simulation of a strategy reports every unknown one, also without
any cluster. -/
theorem unknown_strategies_are_reported (limits : SimulationLimits) :
    (∀ (request : PlacementRequest) (clusters : List Cluster), ReportsBesideCluster request clusters limits) ∧
    ∀ request : StrategyRequest,
      (simulateStrategy request limits = .unsupported request.strategy ↔ Strategy.Unknown request.strategy) ∧
      (Strategy.Unknown request.strategy →
        checkedSimulateStrategy request limits = .ok (simulateStrategy request limits)) := by
  constructor
  · intro request clusters
    constructor
    case reported => exact simulatePlacement_unsupported_iff limits
    case infeasible => exact simulatePlacement_infeasible_iff limits
    case unnoticed =>
      intro refused
      have nobody : request.placement.chosenNames clusters = [] := by
        by_contra chosen
        exact refused (PlacementRule.chosenNames_ne_nil_iff.1 chosen)
      exact simulatePlacement_of_nobody limits nobody
    case words => exact checkedSimulatePlacement_of_unknown limits
  · intro request
    exact ⟨simulateStrategy_unsupported_iff request limits, checkedSimulateStrategy_of_unknown limits⟩

def registeredAs (name : String) : Cluster := ⟨name, .empty, true, "v1.30.0", [], .none, ⟨0, 0⟩⟩

def spreading (clusters : List String) : PlacementRequest :=
  ⟨⟨"Deployment", 4⟩, ⟨some clusters, none, some ⟨"Spread", none⟩⟩⟩

/-- Where the placement accepts none of the registered clusters, or none is registered, an unknown strategy passes as
feasible and is not named. -/
theorem unknown_strategy_passes_unnoticed :
    (spreading ["ghost"]).placement.StrategyUnknown ∧
      simulatePlacement (spreading ["ghost"]) [registeredAs "east"] .default =
        ⟨[], ["no registered cluster matches the placement"], [], true⟩ ∧
      simulatePlacement (spreading ["ghost"]) [] .default =
        ⟨[], ["no registered cluster matches the placement"], [], true⟩ := by
  have unknown : (spreading ["ghost"]).placement.StrategyUnknown := ⟨by decide, by decide, by decide⟩
  exact ⟨unknown, by decide +kernel, by decide +kernel⟩

theorem unknown_strategies_are_reported_beside_cluster :
    (spreading ["east", "ghost"]).placement.AcceptsSome [registeredAs "east"] ∧
      simulatePlacement (spreading ["east", "ghost"]) [registeredAs "east"] ⟨0⟩ =
        ⟨[], ["unsupported scheduling strategy: Spread"], [], false⟩ ∧
      simulateStrategy ⟨⟨"Deployment", 4⟩, [], "", .empty⟩ ⟨0⟩ =
        ⟨[], ["unsupported scheduling strategy: "], false⟩ := by
  have reports := unknown_strategies_are_reported ⟨0⟩
  have unknown : (spreading ["east", "ghost"]).placement.StrategyUnknown := ⟨by decide, by decide, by decide⟩
  have accepted : (spreading ["east", "ghost"]).placement.AcceptsSome [registeredAs "east"] := by
    refine ⟨registeredAs "east", List.mem_singleton_self _, PlacementRule.chooses_iff.1 ?_⟩
    decide +kernel
  refine ⟨accepted, ?_, ?_⟩
  · exact (reports.1 (spreading ["east", "ghost"]) [registeredAs "east"]).reported.2 ⟨unknown, accepted⟩
  · exact (reports.2 ⟨⟨"Deployment", 4⟩, [], "", .empty⟩).1.2 ⟨by decide, by decide⟩

end Simulation

end ReplicaAtlas
