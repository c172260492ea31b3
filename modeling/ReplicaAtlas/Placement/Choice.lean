import ReplicaAtlas.Cluster
import ReplicaAtlas.Placement.Rule

/-!
Which clusters a placement rule chooses. A rule chooses a registered cluster that it lists, if it lists
any, and that carries every label it asks for. The candidates of a rule are the names it would place on,
which may include listed names that nobody registered.
-/
namespace ReplicaAtlas.PlacementRule

def labelsAgree (wanted labels : Table String) : Bool :=
  wanted.entries.all fun e => labels.get? e.1 == some e.2

def chooses (rule : PlacementRule) (name : String) (labels : Table String) : Bool :=
  (rule.clusterNames.isEmpty || rule.clusterNames.contains name) &&
    match rule.labels with
    | some wanted => labelsAgree wanted labels
    | none => true

def choosesCluster (rule : PlacementRule) (cluster : Cluster) : Bool := rule.chooses cluster.name cluster.labels

def chosenNames (rule : PlacementRule) (clusters : List Cluster) : List String :=
  (clusters.filter rule.choosesCluster).map (·.name)

/-- With listed names their order counts, and only those that are registered have to carry the labels. -/
def candidates (rule : PlacementRule) (clusters : List Cluster) : List String :=
  if rule.clusterNames.isEmpty then rule.chosenNames clusters
  else rule.clusterNames.filter fun name =>
    match clusters.find? (·.name = name) with
    | some cluster => rule.choosesCluster cluster
    | none => true

end ReplicaAtlas.PlacementRule
