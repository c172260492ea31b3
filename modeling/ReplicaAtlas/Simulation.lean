import ReplicaAtlas.Allocation
import ReplicaAtlas.Placement.Choice

/-!
Simulated scheduling: what a workload's replicas would be spread like, without anything being scheduled.
A placement is simulated over the registered clusters that it chooses, a strategy over a given list of
clusters. Entries without replicas and entries above the limit are pointed out.
-/
namespace ReplicaAtlas

/-- The largest number of replicas on one cluster that raises no doubt. -/
structure SimulationLimits where
  perCluster : UInt32
  deriving DecidableEq, Repr

def SimulationLimits.default : SimulationLimits := ⟨100⟩

structure WorkloadSize where
  kind : String
  replicas : UInt32
  deriving DecidableEq, Repr

structure PlacementRequest where
  workload : WorkloadSize
  placement : PlacementRule

structure StrategyRequest where
  workload : WorkloadSize
  clusters : List String
  strategy : String
  weights : Table UInt32

structure StrategyAnswer where
  allocation : List Allocation
  warnings : List String
  feasible : Bool
  deriving DecidableEq, Repr

structure PlacementAnswer where
  allocation : List Allocation
  warnings : List String
  errors : List String
  feasible : Bool
  deriving DecidableEq, Repr

namespace Simulation

def capacityMark : String := " (capacity warning)"

def isOver (limits : SimulationLimits) (a : Allocation) : Bool := limits.perCluster < a.replicas

def warningsOf (limits : SimulationLimits) (a : Allocation) : List String :=
  (if a.replicas = 0 then [s!"cluster {a.cluster} receives no replicas"] else []) ++
  (if isOver limits a then [s!"cluster {a.cluster} may lack capacity for {a.replicas} replicas"] else [])

def marked (limits : SimulationLimits) (a : Allocation) : Allocation :=
  if isOver limits a then { a with reason := a.reason ++ capacityMark } else a

def unsupported (strategy : String) : String := s!"unsupported scheduling strategy: {strategy}"

def checked (limits : SimulationLimits) (entries : List Allocation) : List Allocation × List String :=
  (entries.map (marked limits), entries.flatMap (warningsOf limits))

/-- An empty strategy means that every cluster runs all replicas. -/
def mode? (strategy : String) (weights : Table UInt32) : Option AllocationMode :=
  if strategy.isEmpty then some .duplicated
  else (Strategy.named? strategy).map fun
    | .duplicated => .duplicated
    | .divided => .divided weights

end Simulation

open Simulation

def simulatePlacement (request : PlacementRequest) (clusters : List Cluster) (limits : SimulationLimits) :
    PlacementAnswer :=
  let rule := request.placement
  let targets := rule.chosenNames clusters
  if targets.isEmpty then ⟨[], ["no registered cluster matches the placement"], [], true⟩
  else match mode? rule.strategy rule.staticWeights with
    | none => ⟨[], [unsupported rule.strategy], [], false⟩
    | some mode =>
      let (entries, warnings) := checked limits (allocate request.workload.replicas targets mode)
      ⟨entries, warnings, [], true⟩

def simulateStrategy (request : StrategyRequest) (limits : SimulationLimits) : StrategyAnswer :=
  match Strategy.named? request.strategy with
  | none => ⟨[], [unsupported request.strategy], false⟩
  | some strategy =>
    if request.clusters.isEmpty then ⟨[], ["no target clusters given"], false⟩
    else
      let mode := match strategy with
        | .duplicated => .duplicated
        | .divided => .divided request.weights
      let (entries, warnings) := checked limits (allocate request.workload.replicas request.clusters mode)
      ⟨entries, warnings, true⟩

namespace WorkloadSize

def layout : Layout WorkloadSize where
  blank := ⟨"", 0⟩
  fields := [
    .defaulted "kind" Decoder.text fun v w => { w with kind := v },
    .defaulted "replicas" Decoder.word fun v w => { w with replicas := v }]

def toJson (w : WorkloadSize) : Json := .object [("kind", .text w.kind), ("replicas", .word w.replicas)]

end WorkloadSize

namespace PlacementRequest

def layout : Layout PlacementRequest where
  blank := ⟨⟨"", 0⟩, .unrestricted⟩
  fields := [
    .defaulted "workload" WorkloadSize.layout.decode fun v r => { r with workload := v },
    .defaulted "placement" PlacementRule.layout.decode fun v r => { r with placement := v }]

def toJson (r : PlacementRequest) : Json := .object [
  ("workload", r.workload.toJson), ("placement", r.placement.toJson)]

end PlacementRequest

namespace StrategyRequest

def layout : Layout StrategyRequest where
  blank := ⟨⟨"", 0⟩, [], "", .empty⟩
  fields := [
    .defaulted "workload" WorkloadSize.layout.decode fun v r => { r with workload := v },
    .defaulted "clusters" (Decoder.list Decoder.text) fun v r => { r with clusters := v },
    .defaulted "strategy" Decoder.text fun v r => { r with strategy := v },
    .defaulted "weights" (Decoder.table Decoder.word) fun v r => { r with weights := v }]

def toJson (r : StrategyRequest) : Json := .object [
  ("workload", r.workload.toJson), ("clusters", .texts r.clusters), ("strategy", .text r.strategy),
  ("weights", Json.table .word r.weights)]

end StrategyRequest

def StrategyAnswer.toJson (a : StrategyAnswer) : Json := .object [
  ("allocation", Json.list Allocation.toJson a.allocation), ("warnings", .texts a.warnings),
  ("feasible", .bool a.feasible)]

def PlacementAnswer.toJson (a : PlacementAnswer) : Json := .object [
  ("schedulingResult", Json.list Allocation.toJson a.allocation), ("warnings", .texts a.warnings),
  ("errors", .texts a.errors), ("feasible", .bool a.feasible)]

end ReplicaAtlas
