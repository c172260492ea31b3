import ReplicaAtlas.Allocation.Checked
import ReplicaAtlas.Simulation

/-!
The simulations on machine words. All of their arithmetic is in the allocation, whose faults they pass on.
-/
namespace ReplicaAtlas

open Simulation

def checkedSimulatePlacement (request : PlacementRequest) (clusters : List Cluster) (limits : SimulationLimits) :
    Checked PlacementAnswer :=
  let rule := request.placement
  let targets := rule.chosenNames clusters
  if targets.isEmpty then .ok ⟨[], ["no registered cluster matches the placement"], [], true⟩
  else match mode? rule.strategy rule.staticWeights with
    | none => .ok ⟨[], [unsupported rule.strategy], [], false⟩
    | some mode => do
      let entries ← checkedAllocate request.workload.replicas targets mode
      let (entries, warnings) := checked limits entries
      return ⟨entries, warnings, [], true⟩

def checkedSimulateStrategy (request : StrategyRequest) (limits : SimulationLimits) : Checked StrategyAnswer :=
  match Strategy.named? request.strategy with
  | none => .ok ⟨[], [unsupported request.strategy], false⟩
  | some strategy =>
    if request.clusters.isEmpty then .ok ⟨[], ["no target clusters given"], false⟩
    else do
      let mode := match strategy with
        | .duplicated => .duplicated
        | .divided => .divided request.weights
      let entries ← checkedAllocate request.workload.replicas request.clusters mode
      let (entries, warnings) := checked limits entries
      return ⟨entries, warnings, true⟩

end ReplicaAtlas
