import ReplicaAtlas.Json.Decode

/-!
Placement rules: which clusters a workload may run on, and how its replicas are spread over them.
-/
namespace ReplicaAtlas

structure WeightEntry where
  clusters : List String
  weight : UInt32
  deriving DecidableEq, Repr

/-- The strategy is kept as it was published, known or not. -/
structure ReplicaRule where
  strategy : String
  preference : Option (List WeightEntry)
  deriving DecidableEq, Repr

structure PlacementRule where
  affinity : Option (List String)
  labels : Option (Table String)
  replicas : Option ReplicaRule

def clusterNamesLayout : Layout (List String) where
  blank := []
  fields := [.defaulted "clusterNames" (Decoder.list Decoder.text) fun v _ => v]

def clusterNamesToJson (names : List String) : Json := .object [("clusterNames", .texts names)]

namespace WeightEntry

def layout : Layout WeightEntry where
  blank := ⟨[], 0⟩
  fields := [
    .needed "targetCluster" clusterNamesLayout.decode fun v e => { e with clusters := v },
    .needed "weight" Decoder.word fun v e => { e with weight := v }]

def toJson (e : WeightEntry) : Json := .object [
  ("targetCluster", clusterNamesToJson e.clusters), ("weight", .word e.weight)]

end WeightEntry

namespace ReplicaRule

def preferenceLayout : Layout (List WeightEntry) where
  blank := []
  fields := [.defaulted "staticWeightList" (Decoder.list WeightEntry.layout.decode) fun v _ => v]

def layout : Layout ReplicaRule where
  blank := ⟨"", none⟩
  fields := [
    .defaulted "replicaSchedulingType" Decoder.text fun v r => { r with strategy := v },
    .defaulted "weightPreference" (Decoder.optional preferenceLayout.decode)
      fun v r => { r with preference := v }]

def toJson (r : ReplicaRule) : Json := .object [
  ("replicaSchedulingType", .text r.strategy),
  ("weightPreference",
    Json.option (fun entries => .object [("staticWeightList", Json.list WeightEntry.toJson entries)])
      r.preference)]

end ReplicaRule

namespace PlacementRule

def unrestricted : PlacementRule := ⟨none, none, none⟩

instance : Inhabited PlacementRule := ⟨unrestricted⟩

def clusterNames (rule : PlacementRule) : List String := rule.affinity.getD []

def strategy (rule : PlacementRule) : String := (rule.replicas.map (·.strategy)).getD ""

def weightEntries (rule : PlacementRule) : List WeightEntry := (rule.replicas.bind (·.preference)).getD []

def staticWeights (rule : PlacementRule) : Table UInt32 :=
  rule.weightEntries.foldl
    (fun table entry => entry.clusters.foldl (fun table name => table.insert name entry.weight) table) .empty

def labelsLayout : Layout (Table String) where
  blank := .empty
  fields := [.defaulted "matchLabels" (Decoder.table Decoder.text) fun v _ => v]

def layout : Layout PlacementRule where
  blank := unrestricted
  fields := [
    .defaulted "clusterAffinity" (Decoder.optional clusterNamesLayout.decode)
      fun v r => { r with affinity := v },
    .defaulted "clusterSelector" (Decoder.optional labelsLayout.decode) fun v r => { r with labels := v },
    .defaulted "replicaScheduling" (Decoder.optional ReplicaRule.layout.decode)
      fun v r => { r with replicas := v }]

def toJson (r : PlacementRule) : Json := .object [
  ("clusterAffinity", Json.option clusterNamesToJson r.affinity),
  ("clusterSelector",
    Json.option (fun labels => .object [("matchLabels", Json.table .text labels)]) r.labels),
  ("replicaScheduling", Json.option ReplicaRule.toJson r.replicas)]

end PlacementRule

end ReplicaAtlas
