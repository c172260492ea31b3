import ReplicaAtlas.Proofs.Atlas.View
import ReplicaAtlas.Proofs.Placement.Choice
import ReplicaAtlas.Proofs.Simulation.Conservation

/-!
What the simulation of a placement agrees with. It simulates the placement's strategy over the clusters that the
placement accepts, so the simulation of that strategy over those clusters tells the same. And the clusters that it
spreads replicas over are the registered ones among the candidates that are shown while nothing is scheduled.
-/
namespace ReplicaAtlas

/-- The strategy that a placement rule stands for, which is to duplicate where it names none. -/
def PlacementRule.impliedStrategy (rule : PlacementRule) : String :=
  match rule.replicas with
  | none => "Duplicated"
  | some replicas => if replicas.strategy = "" then "Duplicated" else replicas.strategy

/-- The request that names what a placement request leaves to its rule and to the registered clusters. -/
def PlacementRequest.spelledOut (request : PlacementRequest) (clusters : List Cluster) : StrategyRequest where
  workload := request.workload
  clusters := request.placement.chosenNames clusters
  strategy := request.placement.impliedStrategy
  weights := request.placement.staticWeights

def StrategyAnswer.withoutErrors (a : StrategyAnswer) : PlacementAnswer := ⟨a.allocation, a.warnings, [], a.feasible⟩

namespace Simulation

theorem impliedStrategy_of_blank {rule : PlacementRule} (blank : rule.strategy = "") :
    rule.impliedStrategy = "Duplicated" := by
  unfold PlacementRule.strategy at blank
  unfold PlacementRule.impliedStrategy
  cases stated : rule.replicas with
  | none => rfl
  | some replicas =>
    rw [stated] at blank
    exact if_pos blank

theorem impliedStrategy_of_named {rule : PlacementRule} (named : rule.strategy ≠ "") :
    rule.impliedStrategy = rule.strategy := by
  unfold PlacementRule.strategy at named ⊢
  unfold PlacementRule.impliedStrategy
  cases stated : rule.replicas with
  | none =>
    rw [stated] at named
    exact absurd rfl named
  | some replicas =>
    rw [stated] at named
    exact if_neg named

/-- What a rule's strategy comes to, read as a rule's and read by its name. -/
theorem strategy_cases (rule : PlacementRule) (weights : Table UInt32) :
    (rule.impliedStrategy = rule.strategy ∧ Strategy.named? rule.strategy = none ∧
      mode? rule.strategy weights = none) ∨
    (Strategy.named? rule.impliedStrategy = some .duplicated ∧ mode? rule.strategy weights = some .duplicated) ∨
    (Strategy.named? rule.impliedStrategy = some .divided ∧
      mode? rule.strategy weights = some (.divided weights)) := by
  by_cases blank : rule.strategy = ""
  · rw [impliedStrategy_of_blank blank, blank]
    exact .inr (.inl ⟨rfl, rfl⟩)
  · have given : rule.strategy.isEmpty = false := by simpa using blank
    rw [impliedStrategy_of_named blank]
    unfold mode?
    rw [given]
    cases Strategy.named? rule.strategy with
    | none => exact .inl ⟨rfl, rfl, rfl⟩
    | some strategy =>
      cases strategy with
      | duplicated => exact .inr (.inl ⟨rfl, rfl⟩)
      | divided => exact .inr (.inr ⟨rfl, rfl⟩)

section Accepted
variable {request : PlacementRequest} {clusters : List Cluster}
  (accepted : ∃ c ∈ clusters, request.placement.Accepts c.name c.labels) (limits : SimulationLimits)

include accepted

theorem simulatePlacement_spelledOut :
    simulatePlacement request clusters limits =
      (simulateStrategy (request.spelledOut clusters) limits).withoutErrors := by
  have chosen := List.isEmpty_eq_false_iff.2 (PlacementRule.chosenNames_ne_nil_iff.2 accepted)
  unfold simulatePlacement simulateStrategy PlacementRequest.spelledOut
  rcases strategy_cases request.placement request.placement.staticWeights with
    ⟨same, named, mode⟩ | ⟨named, mode⟩ | ⟨named, mode⟩
  · simp only [chosen, same, named, mode]
    rfl
  · simp only [chosen, named, mode]
    rfl
  · simp only [chosen, named, mode]
    rfl

theorem checkedSimulatePlacement_spelledOut :
    checkedSimulatePlacement request clusters limits =
      (checkedSimulateStrategy (request.spelledOut clusters) limits).map StrategyAnswer.withoutErrors := by
  have chosen := List.isEmpty_eq_false_iff.2 (PlacementRule.chosenNames_ne_nil_iff.2 accepted)
  unfold checkedSimulatePlacement checkedSimulateStrategy PlacementRequest.spelledOut
  rcases strategy_cases request.placement request.placement.staticWeights with
    ⟨same, named, mode⟩ | ⟨named, mode⟩ | ⟨named, mode⟩
  · simp only [chosen, same, named, mode]
    rfl
  · simp only [chosen, named, mode]
    cases checkedAllocate request.workload.replicas (request.placement.chosenNames clusters) .duplicated with
    | error f => rfl
    | ok entries => rfl
  · simp only [chosen, named, mode]
    cases checkedAllocate request.workload.replicas (request.placement.chosenNames clusters)
      (.divided request.placement.staticWeights) with
    | error f => rfl
    | ok entries => rfl

end Accepted

/-- Simulating a placement that accepts a registered cluster is simulating its strategy over the clusters that it
accepts, step by step on machine words as well. Only an answer to a placement has room for errors, and it has none. -/
theorem placement_agrees_with_strategy (request : PlacementRequest) (clusters : List Cluster)
    (limits : SimulationLimits) (accepted : ∃ c ∈ clusters, request.placement.Accepts c.name c.labels) :
    let placed := simulatePlacement request clusters limits
    let spelled := simulateStrategy (request.spelledOut clusters) limits
    (placed.allocation = spelled.allocation ∧ placed.warnings = spelled.warnings ∧
      placed.feasible = spelled.feasible ∧ placed.errors = []) ∧
    checkedSimulatePlacement request clusters limits =
      (checkedSimulateStrategy (request.spelledOut clusters) limits).map StrategyAnswer.withoutErrors := by
  intro placed spelled
  have agrees : placed = spelled.withoutErrors := simulatePlacement_spelledOut accepted limits
  rw [agrees]
  exact ⟨⟨rfl, rfl, rfl, rfl⟩, checkedSimulatePlacement_spelledOut accepted limits⟩

def stagedRequest : PlacementRequest where
  workload := ⟨"Deployment", 10⟩
  placement := ⟨none, some (Table.empty.insert "tier" "front"),
    some ⟨"Divided", some [⟨["east", "west"], 1⟩, ⟨["west", "absent"], 3⟩]⟩⟩

def stagedClusters : List Cluster :=
  let front := Table.empty.insert "tier" "front"
  [⟨"west", front, true, "", [], .none, ⟨0, 0⟩⟩, ⟨"north", .empty, true, "", [], .none, ⟨0, 0⟩⟩,
    ⟨"east", front, true, "", [], .none, ⟨0, 0⟩⟩]

theorem placement_agrees_with_strategy_staged :
    (∃ c ∈ stagedClusters, stagedRequest.placement.Accepts c.name c.labels) ∧
      (stagedRequest.spelledOut stagedClusters).clusters = ["west", "east"] ∧
      (simulatePlacement stagedRequest stagedClusters ⟨5⟩).warnings =
        (simulateStrategy (stagedRequest.spelledOut stagedClusters) ⟨5⟩).warnings ∧
      (simulatePlacement stagedRequest stagedClusters ⟨5⟩).warnings =
        ["cluster west may lack capacity for 7 replicas"] := by
  have accepted : ∃ c ∈ stagedClusters, stagedRequest.placement.Accepts c.name c.labels := by
    refine ⟨stagedClusters[0], List.getElem_mem _, PlacementRule.chooses_iff.1 ?_⟩
    decide +kernel
  have agreement := placement_agrees_with_strategy stagedRequest stagedClusters ⟨5⟩ accepted
  refine ⟨accepted, ?_, agreement.1.2.1, ?_⟩
  · decide +kernel
  · decide +kernel

theorem simulated_names {request : PlacementRequest} {clusters : List Cluster} (limits : SimulationLimits)
    (known : (mode? request.placement.strategy request.placement.staticWeights).isSome = true) :
    (simulatePlacement request clusters limits).allocation.map (·.cluster) =
      request.placement.chosenNames clusters := by
  obtain ⟨mode, selected⟩ := Option.isSome_iff_exists.1 known
  by_cases nobody : request.placement.chosenNames clusters = []
  · unfold simulatePlacement
    simp [nobody]
  · rw [simulatePlacement_of_mode limits nobody selected]
    exact (checked_clusters limits _).trans (allocate_clusters _ _ mode)

structure AgreesOnCandidates (rule : PlacementRule) (clusters : List Cluster) (simulated : List String) : Prop where
  registered : ∀ c ∈ clusters, (c.name ∈ rule.candidates clusters ↔ c.name ∈ simulated) ∧
    (c.name ∈ simulated ↔ rule.Accepts c.name c.labels)
  onlyRegistered : ∀ name ∈ simulated, ∃ c ∈ clusters, c.name = name
  unlisted : rule.clusterNames = [] → rule.candidates clusters = simulated
  /-- Listed names are dropped for the labels of a registered cluster only, and otherwise stay as they are listed. -/
  listed : rule.clusterNames ≠ [] → ∃ keeps : String → Bool, rule.candidates clusters = rule.clusterNames.filter keeps ∧
    ∀ name ∈ rule.clusterNames, keeps name = false ↔ ∃ c ∈ clusters, c.name = name ∧ ¬ rule.Labelled c.labels
  /-- The candidates are the clusters shown for a workload that no binding governs. -/
  shown : ∀ (atlas : Atlas) (w : Workload) (view : WorkloadView) (policy : Policy), atlas.view w = .ok view →
    (¬ ∃ key b, atlas.store.Binds w key b) → atlas.store.governing? .propagation w = some policy →
    policy.placement = rule → atlas.registered = clusters →
    view.placements.map (·.cluster) = rule.candidates clusters

theorem agreesOnCandidates_chosenNames {rule : PlacementRule} {clusters : List Cluster}
    (distinct : (clusters.map (·.name)).Nodup) :
    AgreesOnCandidates rule clusters (rule.chosenNames clusters) := by
  constructor
  case registered =>
    intro c member
    have chosen : c.name ∈ rule.chosenNames clusters ↔ rule.Accepts c.name c.labels :=
      PlacementRule.mem_chosenNames_of_registered distinct member
    exact ⟨(PlacementRule.mem_candidates_of_registered distinct member).trans chosen.symm, chosen⟩
  case onlyRegistered =>
    intro name chosen
    obtain ⟨c, member, -, called⟩ := PlacementRule.mem_chosenNames.1 chosen
    exact ⟨c, member, called⟩
  case unlisted =>
    intro unlisted
    exact PlacementRule.candidates_of_unlisted unlisted
  case listed =>
    intro listed
    refine ⟨rule.keeps clusters, PlacementRule.candidates_of_listed listed, ?_⟩
    intro name isListed
    exact PlacementRule.keeps_eq_false_iff distinct isListed
  case shown =>
    intro atlas w view policy shown absent governed placed registered
    obtain ⟨draft, drawn, rfl⟩ := Atlas.view_ok shown
    have unbound : atlas.store.binding? w = none :=
      Store.binding?_eq_none_iff.2 fun key b binds => absent ⟨key, b, binds⟩
    have candidates := (Atlas.showsCandidates drawn unbound).clusters
    rw [governed, registered] at candidates
    exact placed ▸ candidates

/-- Whatever the size of the workload and the limit, the simulation of a placement whose strategy is known or left
out spreads replicas over the clusters that a workload without a binding is shown as candidates. Only unregistered
clusters that the placement lists are candidates alone. -/
theorem candidates_agree_with_simulation (rule : PlacementRule) (clusters : List Cluster) (workload : WorkloadSize)
    (limits : SimulationLimits) (distinct : (clusters.map (·.name)).Nodup)
    (known : rule.strategy = "" ∨ rule.strategy = "Duplicated" ∨ rule.strategy = "Divided") :
    AgreesOnCandidates rule clusters
      ((simulatePlacement ⟨workload, rule⟩ clusters limits).allocation.map (·.cluster)) := by
  have selected := (isSome_mode? rule.strategy rule.staticWeights).2 known
  rw [simulated_names limits selected]
  exact agreesOnCandidates_chosenNames distinct

def listedPlacement : PlacementRule :=
  ⟨some ["east", "ghost", "west", "north", "ghost"], some (Table.empty.insert "tier" "front"), none⟩

theorem candidates_agree_with_simulation_of_listed :
    (stagedClusters.map (·.name)).Nodup ∧ listedPlacement.strategy = "" ∧
      AgreesOnCandidates listedPlacement stagedClusters ["west", "east"] ∧
      listedPlacement.candidates stagedClusters = ["east", "ghost", "west", "ghost"] := by
  have distinct : (stagedClusters.map (·.name)).Nodup := by decide +kernel
  have blank : listedPlacement.strategy = "" := rfl
  have agreement := candidates_agree_with_simulation listedPlacement stagedClusters ⟨"Deployment", 3⟩ ⟨100⟩ distinct
    (.inl blank)
  have simulated : (simulatePlacement ⟨⟨"Deployment", 3⟩, listedPlacement⟩ stagedClusters ⟨100⟩).allocation.map
      (·.cluster) = ["west", "east"] := by decide +kernel
  rw [simulated] at agreement
  refine ⟨distinct, blank, agreement, ?_⟩
  decide +kernel

end Simulation

end ReplicaAtlas
