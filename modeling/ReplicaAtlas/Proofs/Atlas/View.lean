import ReplicaAtlas.Proofs.Atlas.Reading
import ReplicaAtlas.Proofs.Binding.Lookup
import ReplicaAtlas.Proofs.Member.FanOut

/-!
What the view of a workload shows. All of it follows one choice: the first visible binding that governs the workload,
or none. With a binding the view shows the binding's targets and where pods run; without one it shows the candidates
of the propagation policy and where pods could run. Either way each cluster shown is surveyed once, in its place.
-/
namespace ReplicaAtlas

namespace Atlas

def registered (atlas : Atlas) : List Cluster :=
  match atlas.outage.clusters with
  | none => atlas.store.clusterList
  | some _ => []

def clusterWarnings (atlas : Atlas) : List String :=
  match atlas.outage.clusters with
  | none => []
  | some fault => [QueryFault.message ⟨.clusters, fault⟩]

theorem registeredOrWarning_eq (atlas : Atlas) :
    atlas.registeredOrWarning = (atlas.registered, atlas.clusterWarnings) := by
  unfold registeredOrWarning clusters registered clusterWarnings
  cases atlas.outage.clusters with
  | none => rfl
  | some fault => rfl

def governingPair (atlas : Atlas) (w : Workload) : GoverningPolicies :=
  ⟨atlas.store.governing? .propagation w, atlas.store.governing? .override w⟩

def weightsFor (atlas : Atlas) (w : Workload) : Table UInt32 :=
  ((atlas.store.governing? .propagation w).map (·.placement.staticWeights)).getD .empty

theorem governingPolicies_ok {atlas : Atlas} {w : Workload} {policies : GoverningPolicies}
    (resolved : atlas.governingPolicies w = .ok policies) : policies = atlas.governingPair w := by
  obtain ⟨propagation, found, resolved⟩ := bind_ok_iff.1 resolved
  obtain ⟨overriding, foundToo, resolved⟩ := bind_ok_iff.1 resolved
  obtain rfl := governing?_ok found
  obtain rfl := governing?_ok foundToo
  exact (Except.ok.inj resolved).symm

def draftWith (atlas : Atlas) (w : Workload) (found : BindingLookup) : ViewDraft :=
  let shown := atlas.shownPlacements (atlas.store.governing? .propagation w) (atlas.weightsFor w) found
  ⟨atlas.governingPair w, found, shown.1, duplicateWarnings found.matching ++ shown.2⟩

theorem viewDraft_ok {atlas : Atlas} {w : Workload} {draft : ViewDraft} (drawn : atlas.viewDraft w = .ok draft) :
    draft = atlas.draftWith w (lookUp (atlas.store.bindingsIn w.space) w (atlas.weightsFor w)) := by
  obtain ⟨policies, resolved, drawn⟩ := bind_ok_iff.1 drawn
  obtain ⟨bindings, listed, drawn⟩ := bind_ok_iff.1 drawn
  obtain rfl := governingPolicies_ok resolved
  obtain ⟨-, rfl⟩ := reach_ok_iff.1 listed
  exact (Except.ok.inj drawn).symm

theorem viewDraft_of_bound {atlas : Atlas} {w : Workload} {draft : ViewDraft} {b : Binding}
    (drawn : atlas.viewDraft w = .ok draft) (bound : atlas.store.binding? w = some b) :
    draft = ⟨atlas.governingPair w,
      ⟨some b, b.placements (atlas.weightsFor w), b.phaseReport, atlas.store.bindingCount w⟩,
      b.placements (atlas.weightsFor w), duplicateWarnings (atlas.store.bindingCount w)⟩ := by
  rw [viewDraft_ok drawn, lookUp_of_some bound]
  unfold draftWith shownPlacements
  -- The binding's own placements are shown, whether a policy governs the workload or not.
  cases atlas.store.governing? .propagation w with
  | some policy => simp
  | none => simp

def candidatesFor (atlas : Atlas) (w : Workload) : List Placement × List String :=
  match atlas.store.governing? .propagation w with
  | some policy => (candidatePlacements policy (atlas.weightsFor w) atlas.registered, atlas.clusterWarnings)
  | none => ([], [])

theorem viewDraft_of_unbound {atlas : Atlas} {w : Workload} {draft : ViewDraft}
    (drawn : atlas.viewDraft w = .ok draft) (unbound : atlas.store.binding? w = none) :
    draft = ⟨atlas.governingPair w, ⟨none, [], .unbound, 0⟩, (atlas.candidatesFor w).1,
      (atlas.candidatesFor w).2⟩ := by
  rw [viewDraft_ok drawn, lookUp_of_none unbound]
  unfold draftWith shownPlacements candidatesFor
  rw [registeredOrWarning_eq]
  cases atlas.store.governing? .propagation w with
  | some policy => rfl
  | none => rfl

theorem candidatesFor_idle {atlas : Atlas} {w : Workload} {placement : Placement}
    (shown : placement ∈ (atlas.candidatesFor w).1) : placement.planned = 0 ∧ placement.actual = 0 := by
  unfold candidatesFor at shown
  cases governed : atlas.store.governing? .propagation w with
  | some policy =>
    rw [governed] at shown
    obtain ⟨cluster, -, rfl⟩ := List.mem_map.1 shown
    exact ⟨rfl, rfl⟩
  | none =>
    rw [governed] at shown
    exact absurd shown List.not_mem_nil

theorem candidatePlacements_clusters (policy : Policy) (weights : Table UInt32) (registered : List Cluster) :
    (candidatePlacements policy weights registered).map (·.cluster) = policy.placement.candidates registered :=
  (List.map_map ..).trans (List.map_id _)

theorem candidatesFor_clusters (atlas : Atlas) (w : Workload) :
    (atlas.candidatesFor w).1.map (·.cluster) = match atlas.store.governing? .propagation w with
      | some policy => policy.placement.candidates atlas.registered
      | none => [] := by
  unfold candidatesFor
  cases atlas.store.governing? .propagation w with
  | some policy => exact candidatePlacements_clusters ..
  | none => rfl

theorem candidatesFor_warnings (atlas : Atlas) (w : Workload) :
    (atlas.candidatesFor w).2 =
      if (atlas.store.governing? .propagation w).isSome then atlas.clusterWarnings else [] := by
  unfold candidatesFor
  cases atlas.store.governing? .propagation w with
  | some policy => rfl
  | none => rfl

def viewOf (atlas : Atlas) (w : Workload) (draft : ViewDraft) : WorkloadView where
  summary := .of w draft.found.binding
  propagation := draft.policies.propagation.map Policy.brief
  overriding := draft.policies.overriding.map Policy.brief
  placements := draft.placements
  report := draft.found.report
  outcomes := atlas.survey w draft.potential draft.clusters
  warnings := draft.warnings

theorem view_ok {atlas : Atlas} {w : Workload} {view : WorkloadView} (shown : atlas.view w = .ok view) :
    ∃ draft, atlas.viewDraft w = .ok draft ∧ view = atlas.viewOf w draft := by
  obtain ⟨draft, drawn, shown⟩ := bind_ok_iff.1 shown
  exact ⟨draft, drawn, (Except.ok.inj shown).symm⟩

structure ShowsBinding (atlas : Atlas) (w : Workload) (b : Binding) (view : WorkloadView) : Prop where
  summary : view.summary = ⟨w, b.plannedReplicas, b.readyReplicas⟩
  report : view.report = b.phaseReport
  placements : List.Forall₂ (fun target placement =>
    placement.cluster = target.cluster ∧ placement.planned = target.replicas ∧
      placement.actual = StatusCount.replicas ((b.reports.find? (·.cluster = target.cluster)).bind (·.payload)))
    b.targets view.placements
  places : ∀ outcome ∈ view.outcomes, ∀ place ∈ outcome.nodes, place.potential = false
  warnings : view.warnings = if 1 < atlas.store.bindingCount w then
    [s!"{atlas.store.bindingCount w} bindings govern this workload, showing the first"] else []

/-- The view shows no replicas, the candidates of the propagation policy if there is one, and where pods could run. -/
structure ShowsCandidates (atlas : Atlas) (w : Workload) (view : WorkloadView) : Prop where
  summary : view.summary = ⟨w, 0, 0⟩
  report : view.report = ⟨.pending, "no binding found"⟩
  idle : ∀ placement ∈ view.placements, placement.planned = 0 ∧ placement.actual = 0
  clusters : view.placements.map (·.cluster) = match atlas.store.governing? .propagation w with
    | some policy => policy.placement.candidates atlas.registered
    | none => []
  places : ∀ outcome ∈ view.outcomes, ∀ place ∈ outcome.nodes, place.potential = true
  warnings : view.warnings = if (atlas.store.governing? .propagation w).isSome then atlas.clusterWarnings else []

theorem showsBinding {atlas : Atlas} {w : Workload} {draft : ViewDraft} {b : Binding}
    (drawn : atlas.viewDraft w = .ok draft) (bound : atlas.store.binding? w = some b) :
    atlas.ShowsBinding w b (atlas.viewOf w draft) := by
  rw [viewDraft_of_bound drawn bound]
  constructor
  case summary => rfl
  case report => rfl
  case placements =>
    refine List.forall₂_map_right_iff.2 (List.forall₂_same.2 ?_)
    intro target _
    exact ⟨rfl, rfl, rfl⟩
  case places =>
    intro outcome told place placed
    exact Survey.potential_of_mem_outcomes _ _ told placed
  case warnings => rfl

theorem showsCandidates {atlas : Atlas} {w : Workload} {draft : ViewDraft}
    (drawn : atlas.viewDraft w = .ok draft) (unbound : atlas.store.binding? w = none) :
    atlas.ShowsCandidates w (atlas.viewOf w draft) := by
  rw [viewDraft_of_unbound drawn unbound]
  constructor
  case summary => rfl
  case report => rfl
  case idle =>
    intro placement shown
    exact candidatesFor_idle shown
  case clusters => exact atlas.candidatesFor_clusters w
  case places =>
    intro outcome told place placed
    exact Survey.potential_of_mem_outcomes _ _ told placed
  case warnings => exact atlas.candidatesFor_warnings w

/-- The parts of a view agree on whether a binding is shown, on which one, and on the clusters. -/
structure Coherent (atlas : Atlas) (w : Workload) (view : WorkloadView) : Prop where
  clusters : List.Forall₂ (fun placement outcome => outcome.cluster = placement.cluster) view.placements view.outcomes
  surveyed : ∀ outcomes,
    (∃ calls, Survey.Concludes ⟨atlas.options, w, (atlas.store.binding? w).isNone⟩ atlas.members
      (view.placements.map (·.cluster)) calls outcomes) ↔ outcomes = view.outcomes
  propagation : view.propagation = (atlas.store.governing? .propagation w).map Policy.brief
  overriding : view.overriding = (atlas.store.governing? .override w).map Policy.brief
  bound : (∃ key b, atlas.store.Binds w key b) → ∃ b, atlas.store.FirstBinding w b ∧ atlas.ShowsBinding w b view
  unbound : (¬ ∃ key b, atlas.store.Binds w key b) → atlas.ShowsCandidates w view

theorem view_coherent (atlas : Atlas) (w : Workload) (view : WorkloadView) (shown : atlas.view w = .ok view) :
    atlas.Coherent w view := by
  obtain ⟨draft, drawn, rfl⟩ := view_ok shown
  have potential : draft.potential = (atlas.store.binding? w).isNone := by
    rw [viewDraft_ok drawn]
    unfold lookUp
    rw [findBinding_eq]
    cases atlas.store.binding? w with
    | some b => rfl
    | none => rfl
  constructor
  case clusters =>
    refine List.forall₂_map_right_iff.2 (List.forall₂_map_right_iff.2 (List.forall₂_same.2 ?_))
    intro placement _
    exact (Survey.outcome_reports _ atlas.members placement.cluster).name
  case surveyed =>
    intro outcomes
    rw [← potential]
    exact Survey.concludes_iff _ _ _ _
  case propagation =>
    rw [viewDraft_ok drawn]
    rfl
  case overriding =>
    rw [viewDraft_ok drawn]
    rfl
  case bound =>
    rintro ⟨key, b, binds⟩
    cases bound : atlas.store.binding? w with
    | some first => exact ⟨first, Store.binding?_eq_some_iff.1 bound, showsBinding drawn bound⟩
    | none => exact absurd binds (Store.binding?_eq_none_iff.1 bound key b)
  case unbound =>
    intro absent
    have unbound : atlas.store.binding? w = none :=
      Store.binding?_eq_none_iff.2 fun key b binds => absent ⟨key, b, binds⟩
    exact showsCandidates drawn unbound

def deploymentBinding (name : String) (targets : List Target) : Binding :=
  ⟨"shop", name, ⟨"apps/v1", "Deployment", "shop", "web"⟩, targets, [], []⟩

def boundTwice : Atlas where
  store := (Store.empty.putBinding (deploymentBinding "web-b" [⟨"west", 1⟩])).putBinding
    (deploymentBinding "web-a" [⟨"north", 2⟩, ⟨"south", 3⟩])
  outage := .none
  members := .empty
  options := .default
  limits := .default

theorem view_coherent_bound_twice :
    let w : Workload := ⟨"shop", "web", "Deployment", "apps/v1"⟩
    ∃ view, boundTwice.view w = .ok view ∧ boundTwice.Coherent w view ∧
      view.placements.map (fun placement => (placement.cluster, placement.planned)) = [("north", 2), ("south", 3)] ∧
      view.warnings = ["2 bindings govern this workload, showing the first"] := by
  intro w
  refine ⟨_, rfl, view_coherent boundTwice w _ rfl, ?_, ?_⟩
  · decide +kernel
  · decide +kernel

end Atlas

end ReplicaAtlas
