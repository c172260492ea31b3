import ReplicaAtlas.Proofs.Allocation.Conservation
import ReplicaAtlas.Simulation.Checked

/-!
Simulations conserve replicas from end to end. What the allocation hands out reaches the answer: pointing out
doubtful entries changes neither their clusters nor their replicas. No answer depends on a word that wrapped.
-/
namespace ReplicaAtlas.Simulation
open Allocation

/-- Entries that spread replicas over targets by the strategy of a name, where no name means to duplicate. -/
structure Spread (replicas : UInt32) (targets : List String) (strategy : String) (entries : List Allocation) :
    Prop where
  inOrder : entries.map (·.cluster) = targets
  divided : strategy = "Divided" → handedOut entries = replicas.toNat
  duplicated : strategy = "" ∨ strategy = "Duplicated" → ∀ entry ∈ entries, entry.replicas = replicas

@[simp] theorem marked_cluster (limits : SimulationLimits) (entry : Allocation) :
    (marked limits entry).cluster = entry.cluster := by
  unfold marked
  split <;> rfl

@[simp] theorem marked_replicas (limits : SimulationLimits) (entry : Allocation) :
    (marked limits entry).replicas = entry.replicas := by
  unfold marked
  split <;> rfl

theorem checked_clusters (limits : SimulationLimits) (entries : List Allocation) :
    (checked limits entries).1.map (·.cluster) = entries.map (·.cluster) := by
  simp [checked, Function.comp_def]

theorem checked_handedOut (limits : SimulationLimits) (entries : List Allocation) :
    handedOut (checked limits entries).1 = handedOut entries := by
  simp [checked, handedOut, List.foldr_map]

theorem Spread.checked {replicas : UInt32} {targets : List String} {strategy : String}
    {entries : List Allocation} (spread : Spread replicas targets strategy entries) (limits : SimulationLimits) :
    Spread replicas targets strategy (checked limits entries).1 where
  inOrder := (checked_clusters limits entries).trans spread.inOrder
  divided named := (checked_handedOut limits entries).trans (spread.divided named)
  duplicated named entry member := by
    obtain ⟨original, inside, rfl⟩ := List.mem_map.1 member
    rw [marked_replicas]
    exact spread.duplicated named original inside

theorem mode?_duplicated (weights : Table UInt32) : mode? "Duplicated" weights = some .duplicated := rfl

theorem mode?_divided (weights : Table UInt32) : mode? "Divided" weights = some (.divided weights) := rfl

theorem isSome_mode? (strategy : String) (weights : Table UInt32) :
    (mode? strategy weights).isSome = true ↔
      strategy = "" ∨ strategy = "Duplicated" ∨ strategy = "Divided" := by
  constructor
  · intro known
    unfold mode? at known
    split at known
    case isTrue blank => exact .inl (String.isEmpty_iff.1 blank)
    case isFalse named =>
      rw [Option.isSome_map, Option.isSome_iff_exists] at known
      obtain ⟨found, named⟩ := known
      rw [Strategy.named?_eq_some_iff] at named
      cases found with
      | duplicated => exact .inr (.inl named)
      | divided => exact .inr (.inr named)
  · rintro (rfl | rfl | rfl) <;> rfl

theorem spread_allocate (replicas : UInt32) {targets : List String} {strategy : String}
    {weights : Table UInt32} {mode : AllocationMode} (nonempty : targets ≠ [])
    (selected : mode? strategy weights = some mode) :
    Spread replicas targets strategy (allocate replicas targets mode) where
  inOrder := allocate_clusters replicas targets mode
  divided named := by
    subst named
    rw [mode?_divided] at selected
    cases selected
    exact allocate_divided_handedOut replicas weights nonempty
  duplicated named entry member := by
    have duplicated : mode = .duplicated := by
      rcases named with rfl | rfl
      · exact (Option.some.inj selected).symm
      · exact (Option.some.inj selected).symm
    subst duplicated
    exact allocate_duplicated_replicas member

theorem simulatePlacement_of_mode {request : PlacementRequest} {clusters : List Cluster}
    (limits : SimulationLimits) {mode : AllocationMode}
    (nonempty : request.placement.chosenNames clusters ≠ [])
    (selected : mode? request.placement.strategy request.placement.staticWeights = some mode) :
    simulatePlacement request clusters limits =
      let entries := allocate request.workload.replicas (request.placement.chosenNames clusters) mode
      ⟨(checked limits entries).1, (checked limits entries).2, [], true⟩ := by
  have some : (request.placement.chosenNames clusters).isEmpty = false := by simpa using nonempty
  unfold simulatePlacement
  simp only [some, Bool.false_eq_true, if_false, selected]

theorem simulatePlacement_feasible {request : PlacementRequest} {clusters : List Cluster}
    (limits : SimulationLimits) (nonempty : request.placement.chosenNames clusters ≠ []) :
    (simulatePlacement request clusters limits).feasible =
      (mode? request.placement.strategy request.placement.staticWeights).isSome := by
  cases selected : mode? request.placement.strategy request.placement.staticWeights with
  | none =>
    have some : (request.placement.chosenNames clusters).isEmpty = false := by simpa using nonempty
    unfold simulatePlacement
    simp only [some, Bool.false_eq_true, if_false, selected]
    rfl
  | some mode =>
    rw [simulatePlacement_of_mode limits nonempty selected]
    rfl

theorem checkedSimulatePlacement_ok {request : PlacementRequest} {clusters : List Cluster}
    (limits : SimulationLimits) (few : (request.placement.chosenNames clusters).length < 4294967296) :
    checkedSimulatePlacement request clusters limits = .ok (simulatePlacement request clusters limits) := by
  unfold checkedSimulatePlacement simulatePlacement
  dsimp only
  split
  case isTrue none => rfl
  case isFalse some =>
    cases mode? request.placement.strategy request.placement.staticWeights with
    | none => rfl
    | some mode => simp only [checkedAllocate_ok _ few, bind, Except.bind, pure, Except.pure]

/-- A request names its strategy itself, so the empty name is none here. -/
theorem simulateStrategy_of_named {request : StrategyRequest} (limits : SimulationLimits)
    {strategy : Strategy} (nonempty : request.clusters ≠ [])
    (named : Strategy.named? request.strategy = some strategy) :
    ∃ mode, mode? request.strategy request.weights = some mode ∧
      simulateStrategy request limits =
        let entries := allocate request.workload.replicas request.clusters mode
        ⟨(checked limits entries).1, (checked limits entries).2, true⟩ := by
  have some : request.clusters.isEmpty = false := by simpa using nonempty
  have text := (Strategy.named?_eq_some_iff _ _).1 named
  cases strategy with
  | duplicated =>
    refine ⟨.duplicated, text ▸ mode?_duplicated request.weights, ?_⟩
    unfold simulateStrategy
    simp only [named, some, Bool.false_eq_true, if_false]
  | divided =>
    refine ⟨.divided request.weights, text ▸ mode?_divided request.weights, ?_⟩
    unfold simulateStrategy
    simp only [named, some, Bool.false_eq_true, if_false]

theorem simulateStrategy_feasible {request : StrategyRequest} (limits : SimulationLimits)
    (nonempty : request.clusters ≠ []) :
    (simulateStrategy request limits).feasible = (Strategy.named? request.strategy).isSome := by
  cases named : Strategy.named? request.strategy with
  | none =>
    unfold simulateStrategy
    rw [named]
    rfl
  | some strategy =>
    obtain ⟨mode, _, answer⟩ := simulateStrategy_of_named limits nonempty named
    rw [answer]
    rfl

theorem isSome_named? (text : String) :
    (Strategy.named? text).isSome = true ↔ text = "Duplicated" ∨ text = "Divided" := by
  constructor
  · intro known
    obtain ⟨found, named⟩ := Option.isSome_iff_exists.1 known
    rw [Strategy.named?_eq_some_iff] at named
    cases found with
    | duplicated => exact .inl named
    | divided => exact .inr named
  · rintro (rfl | rfl) <;> rfl

theorem checkedSimulateStrategy_ok {request : StrategyRequest} (limits : SimulationLimits)
    (few : request.clusters.length < 4294967296) :
    checkedSimulateStrategy request limits = .ok (simulateStrategy request limits) := by
  unfold checkedSimulateStrategy simulateStrategy
  cases Strategy.named? request.strategy with
  | none => rfl
  | some strategy =>
    dsimp only
    split
    case isTrue none => rfl
    case isFalse some =>
      cases strategy with
      | duplicated => simp only [checkedAllocate_ok _ few, bind, Except.bind, pure, Except.pure]
      | divided => simp only [checkedAllocate_ok _ few, bind, Except.bind, pure, Except.pure]

/-- Replicas are conserved from request to answer, in both forms of simulation. With fewer than 2^32 targets no
step leaves its machine word. With any target at all the answer is feasible exactly for the known strategies,
and a feasible answer has one entry for each target in order: those of a division sum to the replicas asked
for, and each of a duplication has all of them. -/
theorem simulations_conserve_replicas (limits : SimulationLimits) :
    (∀ (request : PlacementRequest) (clusters : List Cluster),
      (request.placement.chosenNames clusters).length < 4294967296 →
      checkedSimulatePlacement request clusters limits = .ok (simulatePlacement request clusters limits) ∧
      (request.placement.chosenNames clusters ≠ [] →
        ((simulatePlacement request clusters limits).feasible = true ↔ request.placement.strategy = "" ∨
          request.placement.strategy = "Duplicated" ∨ request.placement.strategy = "Divided") ∧
        ((simulatePlacement request clusters limits).feasible = true →
          Spread request.workload.replicas (request.placement.chosenNames clusters) request.placement.strategy
            (simulatePlacement request clusters limits).allocation))) ∧
    ∀ request : StrategyRequest, request.clusters.length < 4294967296 →
      checkedSimulateStrategy request limits = .ok (simulateStrategy request limits) ∧
      (request.clusters ≠ [] →
        ((simulateStrategy request limits).feasible = true ↔
          request.strategy = "Duplicated" ∨ request.strategy = "Divided") ∧
        ((simulateStrategy request limits).feasible = true →
          Spread request.workload.replicas request.clusters request.strategy
            (simulateStrategy request limits).allocation)) := by
  refine ⟨fun request clusters few => ⟨checkedSimulatePlacement_ok limits few, fun nonempty => ?_⟩,
    fun request few => ⟨checkedSimulateStrategy_ok limits few, fun nonempty => ?_⟩⟩
  · rw [simulatePlacement_feasible limits nonempty]
    refine ⟨isSome_mode? .., fun known => ?_⟩
    obtain ⟨mode, selected⟩ := Option.isSome_iff_exists.1 known
    rw [simulatePlacement_of_mode limits nonempty selected]
    exact (spread_allocate request.workload.replicas nonempty selected).checked limits
  · rw [simulateStrategy_feasible limits nonempty]
    refine ⟨isSome_named? .., fun known => ?_⟩
    obtain ⟨strategy, named⟩ := Option.isSome_iff_exists.1 known
    obtain ⟨mode, selected, answer⟩ := simulateStrategy_of_named limits nonempty named
    rw [answer]
    exact (spread_allocate request.workload.replicas nonempty selected).checked limits

theorem simulations_conserve_largest_replicas :
    let cluster (name : String) : Cluster := ⟨name, .empty, true, "", [], .none, ⟨0, 0⟩⟩
    let registered := [cluster "X", cluster "Y", cluster "Z"]
    let placement : PlacementRequest :=
      ⟨⟨"Deployment", 10⟩, ⟨none, none, some ⟨"Divided", some [⟨["X"], 2⟩, ⟨["Y"], 1⟩]⟩⟩⟩
    let strategy : StrategyRequest :=
      ⟨⟨"Deployment", 4294967295⟩, ["a", "b", "a"], "Divided", Table.empty.insert "a" 4294967295⟩
    (placement.placement.chosenNames registered).length < 4294967296 ∧
      Spread 10 ["X", "Y", "Z"] "Divided" (simulatePlacement placement registered ⟨0⟩).allocation ∧
      strategy.clusters.length < 4294967296 ∧
      Spread 4294967295 ["a", "b", "a"] "Divided" (simulateStrategy strategy ⟨0⟩).allocation := by
  intro cluster registered placement strategy
  have few : (placement.placement.chosenNames registered).length < 4294967296 := by decide
  have some : strategy.clusters.length < 4294967296 := by decide
  have placed := ((simulations_conserve_replicas ⟨0⟩).1 placement registered few).2 (by decide)
  have divided := ((simulations_conserve_replicas ⟨0⟩).2 strategy some).2 (by decide)
  exact ⟨few, placed.2 rfl, some, divided.2 rfl⟩

end ReplicaAtlas.Simulation
