import ReplicaAtlas.Atlas.View
import ReplicaAtlas.Cluster.View
import ReplicaAtlas.Distribution
import ReplicaAtlas.Topology

/-!
The remaining queries of an atlas: simulations, graphs, distributions and the views of clusters.
-/
namespace ReplicaAtlas.Atlas

def simulatePlacement (atlas : Atlas) (request : PlacementRequest) : Except QueryFault PlacementAnswer := do
  let clusters ← atlas.clusters
  return ReplicaAtlas.simulatePlacement request clusters atlas.limits

def simulateStrategy (atlas : Atlas) (request : StrategyRequest) : StrategyAnswer :=
  ReplicaAtlas.simulateStrategy request atlas.limits

def topology (atlas : Atlas) (scope : TopologyScope) : Except QueryFault Topology := do
  let clusters ← atlas.clusters
  match scope with
  | .resource w =>
    let policies ← atlas.visiblePolicies .propagation w.space
    return .ofWorkload w policies clusters
  | .overview space =>
    let policies ← atlas.policiesInScope .propagation space
    return .overview policies clusters

def distribution (atlas : Atlas) (space : String) : Except QueryFault Distribution := do
  let bindings ← atlas.bindingsIn space
  return .ofBindings bindings

def clusterViews (atlas : Atlas) : Except QueryFault (List ClusterView) := do
  let clusters ← atlas.clusters
  return clusters.map Cluster.view

end ReplicaAtlas.Atlas
