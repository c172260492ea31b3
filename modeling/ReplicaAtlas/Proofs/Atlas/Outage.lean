import ReplicaAtlas.Proofs.Atlas.View
import ReplicaAtlas.Proofs.Placement.Choice

/-!
The view of a workload while the clusters are out of reach. A view reads the registered clusters for one thing only, to
check the labels of candidates. Where candidates are shown, an outage leaves in every name that the policy lists and
finds no others, and all that is said of a candidate follows from its name. Elsewhere an outage makes no difference.
-/
namespace ReplicaAtlas

namespace Atlas

def withoutClusters (atlas : Atlas) (fault : StoreFault) : Atlas :=
  { atlas with outage := { atlas.outage with clusters := some fault } }

section Views
variable {atlas : Atlas} {w : Workload}

theorem exists_view (atlas : Atlas) (policies : atlas.outage.policies = none)
    (clusterPolicies : atlas.outage.clusterPolicies = none) (bindings : atlas.outage.bindings = none) (w : Workload) :
    ∃ view, atlas.view w = .ok view := by
  have whole : atlas.outage.Whole := by rw [Outage.Whole, policies, clusterPolicies]
  refine (needs_view whole w).answers.2 ?_
  simp [Outage.first?_cons, Outage.first?_nil, Outage.fault?, policies, bindings]

def candidateView (atlas : Atlas) (w : Workload) (policy : Policy) : WorkloadView where
  summary := .of w none
  propagation := some policy.brief
  overriding := (atlas.store.governing? .override w).map Policy.brief
  placements := candidatePlacements policy (atlas.weightsFor w) atlas.registered
  report := .unbound
  outcomes := atlas.survey w true (policy.placement.candidates atlas.registered)
  warnings := atlas.clusterWarnings

theorem view_eq_candidateView {view : WorkloadView} (shown : atlas.view w = .ok view)
    (unbound : atlas.store.binding? w = none) {policy : Policy}
    (governed : atlas.store.governing? .propagation w = some policy) : view = atlas.candidateView w policy := by
  obtain ⟨draft, drawn, rfl⟩ := view_ok shown
  rw [viewDraft_of_unbound drawn unbound, candidatesFor, governed, viewOf, candidateView, governingPair, governed,
    ViewDraft.clusters, candidatePlacements_clusters]
  rfl

variable {near far : WorkloadView} {fault : StoreFault} (nearShown : atlas.view w = .ok near)
  (farShown : (atlas.withoutClusters fault).view w = .ok far)

include nearShown farShown

theorem view_withoutClusters_of_bound {b : Binding} (bound : atlas.store.binding? w = some b) : far = near := by
  obtain ⟨nearDraft, nearDrawn, rfl⟩ := view_ok nearShown
  obtain ⟨farDraft, farDrawn, rfl⟩ := view_ok farShown
  rw [viewDraft_of_bound nearDrawn bound, viewDraft_of_bound farDrawn bound]
  rfl

theorem view_withoutClusters_of_ungoverned (unbound : atlas.store.binding? w = none)
    (ungoverned : atlas.store.governing? .propagation w = none) : far = near := by
  obtain ⟨nearDraft, nearDrawn, rfl⟩ := view_ok nearShown
  obtain ⟨farDraft, farDrawn, rfl⟩ := view_ok farShown
  have nearNone : atlas.candidatesFor w = ([], []) := by rw [candidatesFor, ungoverned]
  have farUngoverned : (atlas.withoutClusters fault).store.governing? .propagation w = none := ungoverned
  have farNone : (atlas.withoutClusters fault).candidatesFor w = ([], []) := by rw [candidatesFor, farUngoverned]
  rw [viewDraft_of_unbound nearDrawn unbound, viewDraft_of_unbound farDrawn unbound, nearNone, farNone]
  rfl

end Views

/-- Items that are made from keys and keep them are told apart by them. -/
theorem eq_of_same_key {Key Item : Type} {make : Key → Item} {key : Item → Key} (keeps : Function.LeftInverse key make)
    {keys others : List Key} {a b : Item} (first : a ∈ keys.map make) (second : b ∈ others.map make)
    (same : key a = key b) : a = b := by
  obtain ⟨k, -, rfl⟩ := List.mem_map.1 first
  obtain ⟨other, -, rfl⟩ := List.mem_map.1 second
  rw [keeps, keeps] at same
  rw [same]

theorem outcome_keeps_cluster (survey : Survey) (members : Table Member) :
    Function.LeftInverse ClusterOutcome.cluster (survey.outcome members) :=
  fun cluster => (survey.outcome_reports members cluster).name

theorem survey_clusters (atlas : Atlas) (w : Workload) (potential : Bool) (clusters : List String) :
    (atlas.survey w potential clusters).map ClusterOutcome.cluster = clusters := by
  rw [survey, Survey.outcomes, List.map_map, (outcome_keeps_cluster _ _).comp_eq_id]
  exact List.map_id clusters

/-- What an outage makes of the view of a workload with candidates, where else these clusters are registered. -/
structure Degrades (policy : Policy) (registered : List Cluster) (fault : StoreFault) (near far : WorkloadView) :
    Prop where
  summary : far.summary = near.summary
  propagation : far.propagation = near.propagation
  overriding : far.overriding = near.overriding
  report : far.report = near.report
  warnings : far.warnings = near.warnings ++ [QueryFault.message ⟨.clusters, fault⟩]
  checked : near.placements.map (·.cluster) = policy.placement.candidates registered
  listed : far.placements.map (·.cluster) = policy.placement.clusterNames
  surveyed : far.outcomes.map (·.cluster) = policy.placement.clusterNames
  widens : policy.placement.clusterNames ≠ [] →
    near.placements.Sublist far.placements ∧ near.outcomes.Sublist far.outcomes
  samePlacement : ∀ placement ∈ near.placements, ∀ other ∈ far.placements,
    placement.cluster = other.cluster → placement = other
  sameOutcome : ∀ outcome ∈ near.outcomes, ∀ other ∈ far.outcomes, outcome.cluster = other.cluster → outcome = other

theorem degrades_candidateView {atlas : Atlas} (inReach : atlas.outage = .none) (w : Workload) (policy : Policy)
    (fault : StoreFault) :
    Degrades policy atlas.store.clusterList fault (atlas.candidateView w policy)
      ((atlas.withoutClusters fault).candidateView w policy) := by
  have all : policy.placement.candidates (atlas.withoutClusters fault).registered = policy.placement.clusterNames :=
    policy.placement.candidates_nil
  have registered : atlas.registered = atlas.store.clusterList := by rw [Atlas.registered, inReach]; rfl
  constructor
  case summary => rfl
  case propagation => rfl
  case overriding => rfl
  case report => rfl
  case warnings =>
    have none : atlas.clusterWarnings = [] := by rw [clusterWarnings, inReach]; rfl
    rw [candidateView, candidateView, none]
    rfl
  case checked =>
    rw [← registered]
    exact candidatePlacements_clusters ..
  case listed =>
    rw [← all]
    exact candidatePlacements_clusters ..
  case surveyed =>
    rw [← all]
    exact survey_clusters ..
  case widens =>
    intro some
    have kept := PlacementRule.candidates_sublist some atlas.registered
    exact ⟨kept.map _, kept.map _⟩
  case samePlacement =>
    intro placement near other far same
    have keeps : Function.LeftInverse Placement.cluster (candidatePlacement policy (atlas.weightsFor w)) := fun _ => rfl
    exact eq_of_same_key keeps near far same
  case sameOutcome =>
    intro outcome near other far same
    exact eq_of_same_key (outcome_keeps_cluster ⟨atlas.options, w, true⟩ atlas.members) near far same

/-- While policies and bindings are in reach, an outage of the clusters shows only where candidates are shown. There
it adds one warning and shows the listed names, all of them and no others, with nothing else about them changed. -/
theorem cluster_outage_widens_or_empties (atlas : Atlas) (inReach : atlas.outage = .none) (fault : StoreFault)
    (w : Workload) :
    ∃ near far, atlas.view w = .ok near ∧ (atlas.withoutClusters fault).view w = .ok far ∧
      ((∃ key b, atlas.store.Binds w key b) ∨ atlas.store.governing? .propagation w = none → far = near) ∧
      ∀ policy, atlas.store.governing? .propagation w = some policy → (¬ ∃ key b, atlas.store.Binds w key b) →
        Degrades policy atlas.store.clusterList fault near far := by
  have policies : atlas.outage.policies = none := by rw [inReach]; rfl
  have clusterPolicies : atlas.outage.clusterPolicies = none := by rw [inReach]; rfl
  have bindings : atlas.outage.bindings = none := by rw [inReach]; rfl
  obtain ⟨near, nearShown⟩ := exists_view atlas policies clusterPolicies bindings w
  obtain ⟨far, farShown⟩ := exists_view (atlas.withoutClusters fault) policies clusterPolicies bindings w
  refine ⟨near, far, nearShown, farShown, ?_, ?_⟩
  · intro spared
    cases bound : atlas.store.binding? w with
    | some b => exact view_withoutClusters_of_bound nearShown farShown bound
    | none =>
      rcases spared with ⟨key, b, binds⟩ | ungoverned
      · exact absurd binds (Store.binding?_eq_none_iff.1 bound key b)
      · exact view_withoutClusters_of_ungoverned nearShown farShown bound ungoverned
  · intro policy governed absent
    have unbound : atlas.store.binding? w = none :=
      Store.binding?_eq_none_iff.2 fun key b binds => absent ⟨key, b, binds⟩
    rw [view_eq_candidateView nearShown unbound governed, view_eq_candidateView farShown unbound governed]
    exact degrades_candidateView inReach w policy fault

def unlabelledEast : Atlas where
  store := (Store.empty.putCluster ⟨"east", .empty, true, "v1.30.0", [], .none, ⟨0, 0⟩⟩).putPolicy .propagation
    ⟨"gold", none, [⟨"", "Deployment", "", ""⟩],
      ⟨some ["west", "east"], some (Table.empty.insert "tier" "gold"), none⟩⟩
  outage := .none
  members := .empty
  options := .default
  limits := .default

theorem cluster_outage_widens_or_empties_unlabelled_east :
    let w : Workload := ⟨"shop", "web", "Deployment", "apps/v1"⟩
    let fault : StoreFault := ⟨.unavailable, "clusters"⟩
    unlabelledEast.outage = .none ∧ ∃ policy near far, unlabelledEast.store.governing? .propagation w = some policy ∧
      unlabelledEast.view w = .ok near ∧ (unlabelledEast.withoutClusters fault).view w = .ok far ∧
      Degrades policy unlabelledEast.store.clusterList fault near far ∧ near.placements.map (·.cluster) = ["west"] ∧
      far.placements.map (·.cluster) = ["west", "east"] := by
  intro w fault
  obtain ⟨near, far, nearShown, farShown, -, degrades⟩ := cluster_outage_widens_or_empties unlabelledEast rfl fault w
  have absent : ¬ ∃ key b, unlabelledEast.store.Binds w key b := by
    rintro ⟨key, b, binds⟩
    have stands := binds.stands
    cases stands
  have some : (unlabelledEast.store.governing? .propagation w).isSome = true := by decide +kernel
  obtain ⟨policy, governed⟩ := Option.isSome_iff_exists.1 some
  have nearNames : (unlabelledEast.view w).map (fun view => view.placements.map (·.cluster)) = .ok ["west"] := by
    decide +kernel
  have farNames : ((unlabelledEast.withoutClusters fault).view w).map (fun view =>
      view.placements.map (·.cluster)) = .ok ["west", "east"] := by decide +kernel
  rw [nearShown] at nearNames
  rw [farShown] at farNames
  exact ⟨rfl, policy, near, far, governed, nearShown, farShown, degrades policy governed absent,
    Except.ok.inj nearNames, Except.ok.inj farNames⟩

end Atlas

end ReplicaAtlas
