import ReplicaAtlas.Atlas.Policies
import ReplicaAtlas.Binding.Lookup

/-!
The view of one workload: where its binding plans its replicas and where its pods run, or, while no binding
governs it, where its propagation policy would allow them.
-/
namespace ReplicaAtlas

structure WorkloadView where
  summary : WorkloadSummary
  propagation : Option Policy.Brief
  overriding : Option Policy.Brief
  placements : List Placement
  report : PhaseReport
  /-- One for each placement, in its order. -/
  outcomes : List ClusterOutcome
  warnings : List String

namespace WorkloadView

def failedClusters (view : WorkloadView) : List String :=
  (view.outcomes.filter (·.isFailed)).map (·.cluster)

def toJson (v : WorkloadView) : Json := .object <|
  [("workloadInfo", v.summary.toJson), ("propagationPolicy", Json.option Policy.Brief.toJson v.propagation),
    ("overridePolicy", Json.option Policy.Brief.toJson v.overriding),
    ("clusterPlacements", Json.list Placement.toJson v.placements), ("schedulingStatus", v.report.toJson),
    ("nodePlacements", Json.list ClusterOutcome.toJson v.outcomes)] ++
  Json.optionalMember "warnings" Json.texts (some v.warnings |>.filter (!·.isEmpty))

end WorkloadView

namespace Atlas

def duplicateWarnings (matching : Nat) : List String :=
  if 1 < matching then [s!"{matching} bindings govern this workload, showing the first"] else []

def candidatePlacement (policy : Policy) (weights : Table UInt32) (cluster : String) : Placement where
  cluster := cluster
  planned := 0
  actual := 0
  weight := weights.get? cluster
  reason := s!"candidate cluster of policy {policy.name}"

def candidatePlacements (policy : Policy) (weights : Table UInt32) (registered : List Cluster) : List Placement :=
  (policy.placement.candidates registered).map (candidatePlacement policy weights)

/-- When the clusters are out of reach there are none to check labels of, which is told in a warning. -/
def registeredOrWarning (atlas : Atlas) : List Cluster × List String :=
  match atlas.clusters with
  | .ok clusters => (clusters, [])
  | .error f => ([], [f.message])

def shownPlacements (atlas : Atlas) (propagation : Option Policy) (weights : Table UInt32)
    (found : BindingLookup) : List Placement × List String :=
  match propagation, found.binding with
  | some policy, none =>
    let (registered, warnings) := atlas.registeredOrWarning
    (candidatePlacements policy weights registered, warnings)
  | _, _ => (found.placements, [])

def survey (atlas : Atlas) (w : Workload) (potential : Bool) (clusters : List String) : List ClusterOutcome :=
  Survey.outcomes ⟨atlas.options, w, potential⟩ atlas.members clusters

structure ViewDraft where
  policies : GoverningPolicies
  found : BindingLookup
  placements : List Placement
  warnings : List String

def ViewDraft.potential (draft : ViewDraft) : Bool := draft.found.binding.isNone

def ViewDraft.clusters (draft : ViewDraft) : List String := draft.placements.map (·.cluster)

def viewDraft (atlas : Atlas) (w : Workload) : Except QueryFault ViewDraft := do
  let policies ← atlas.governingPolicies w
  let bindings ← atlas.bindingsIn w.space
  let weights := (policies.propagation.map (·.placement.staticWeights)).getD .empty
  let found := lookUp bindings w weights
  let (placements, warnings) := atlas.shownPlacements policies.propagation weights found
  return ⟨policies, found, placements, duplicateWarnings found.matching ++ warnings⟩

def view (atlas : Atlas) (w : Workload) : Except QueryFault WorkloadView := do
  let draft ← atlas.viewDraft w
  return {
    summary := .of w draft.found.binding
    propagation := draft.policies.propagation.map Policy.brief
    overriding := draft.policies.overriding.map Policy.brief
    placements := draft.placements
    report := draft.found.report
    outcomes := atlas.survey w draft.potential draft.clusters
    warnings := draft.warnings }

end Atlas

end ReplicaAtlas
