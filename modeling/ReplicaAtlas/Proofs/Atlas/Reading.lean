import Mathlib.Data.List.Basic
import ReplicaAtlas.Atlas.Queries
import ReplicaAtlas.Proofs.Success

/-!
How queries read their sources. They read them one after the other, and a source that is out of reach ends the query,
so a query fails with the first of the sources it needs that is out of reach, and is answered if none is. Policies
are listed in two ways from one source, which is out of reach for both or for neither.
-/
namespace ReplicaAtlas

namespace Outage

def fault? (outage : Outage) : Source → Option StoreFault
  | .policies => outage.policies
  | .bindings => outage.bindings
  | .clusters => outage.clusters

def first? (outage : Outage) (sources : List Source) : Option QueryFault :=
  sources.findSome? fun source => (outage.fault? source).map (QueryFault.mk source)

/-- The two listings of policies are out of reach together. -/
def Whole (outage : Outage) : Prop := outage.clusterPolicies.isSome = outage.policies.isSome

theorem first?_nil (outage : Outage) : outage.first? [] = .none := rfl

theorem first?_cons (outage : Outage) (source : Source) (later : List Source) :
    outage.first? (source :: later) =
      ((outage.fault? source).map (QueryFault.mk source)).or (outage.first? later) := by
  unfold first?
  rw [List.findSome?_cons]
  cases outage.fault? source with
  | none => rfl
  | some fault => rfl

theorem first?_append (outage : Outage) (sources later : List Source) :
    outage.first? (sources ++ later) = (outage.first? sources).or (outage.first? later) :=
  List.findSome?_append

theorem first?_cons_cons (outage : Outage) (source : Source) (later : List Source) :
    outage.first? (source :: source :: later) = outage.first? (source :: later) := by
  rw [first?_cons, first?_cons, ← Option.or_assoc, Option.or_self]

end Outage

namespace Store

def reaching (s : Store) (kind : PolicyKind) (space : String) : List Policy :=
  s.policiesIn kind space ++ s.clusterPolicies kind

def governing? (s : Store) (kind : PolicyKind) (w : Workload) : Option Policy :=
  (s.reaching kind w.space).find? (·.governs w)

def inScope (s : Store) (kind : PolicyKind) (space : String) : List Policy :=
  if space.isEmpty then s.reaching kind space else s.policiesIn kind space

end Store

namespace Atlas

theorem reach_ok_iff {α : Type} {source : Source} {fault : Option StoreFault} {listing items : α} :
    reach source fault listing = .ok items ↔ fault = none ∧ listing = items := by
  cases fault with
  | none => simp [reach]
  | some fault => simp [reach]

theorem visiblePolicies_ok {atlas : Atlas} {kind : PolicyKind} {space : String} {policies : List Policy}
    (listed : atlas.visiblePolicies kind space = .ok policies) : policies = atlas.store.reaching kind space := by
  obtain ⟨own, ownListed, listed⟩ := bind_ok_iff.1 listed
  obtain ⟨clusterScoped, scopedListed, listed⟩ := bind_ok_iff.1 listed
  obtain ⟨-, rfl⟩ := reach_ok_iff.1 ownListed
  obtain ⟨-, rfl⟩ := reach_ok_iff.1 scopedListed
  exact (Except.ok.inj listed).symm

theorem policiesInScope_ok {atlas : Atlas} {kind : PolicyKind} {space : String} {policies : List Policy}
    (listed : atlas.policiesInScope kind space = .ok policies) : policies = atlas.store.inScope kind space := by
  obtain ⟨own, ownListed, listed⟩ := bind_ok_iff.1 listed
  obtain ⟨-, rfl⟩ := reach_ok_iff.1 ownListed
  unfold Store.inScope
  split at listed
  case isTrue blank =>
    obtain ⟨clusterScoped, scopedListed, listed⟩ := bind_ok_iff.1 listed
    obtain ⟨-, rfl⟩ := reach_ok_iff.1 scopedListed
    rw [if_pos blank]
    exact (Except.ok.inj listed).symm
  case isFalse named =>
    rw [if_neg named]
    exact (Except.ok.inj listed).symm

theorem governing?_ok {atlas : Atlas} {kind : PolicyKind} {w : Workload} {policy? : Option Policy}
    (resolved : atlas.governing? kind w = .ok policy?) : policy? = atlas.store.governing? kind w := by
  obtain ⟨own, ownListed, resolved⟩ := bind_ok_iff.1 resolved
  obtain ⟨-, rfl⟩ := reach_ok_iff.1 ownListed
  rw [Store.governing?, Store.reaching, List.find?_append]
  cases found : (atlas.store.policiesIn kind w.space).find? (·.governs w) with
  | some policy =>
    rw [found] at resolved
    exact (Except.ok.inj resolved).symm
  | none =>
    rw [found] at resolved
    obtain ⟨clusterScoped, scopedListed, resolved⟩ := bind_ok_iff.1 resolved
    obtain ⟨-, rfl⟩ := reach_ok_iff.1 scopedListed
    exact (Except.ok.inj resolved).symm

theorem topology_ok {atlas : Atlas} {scope : TopologyScope} {topology : Topology}
    (drawn : atlas.topology scope = .ok topology) :
    topology = match scope with
      | .resource w => .ofWorkload w (atlas.store.reaching .propagation w.space) atlas.store.clusterList
      | .overview space => .overview (atlas.store.inScope .propagation space) atlas.store.clusterList := by
  obtain ⟨clusters, listed, drawn⟩ := bind_ok_iff.1 drawn
  obtain ⟨-, rfl⟩ := reach_ok_iff.1 listed
  cases scope with
  | resource w =>
    obtain ⟨policies, visible, drawn⟩ := bind_ok_iff.1 drawn
    obtain rfl := visiblePolicies_ok visible
    exact (Except.ok.inj drawn).symm
  | overview space =>
    obtain ⟨policies, visible, drawn⟩ := bind_ok_iff.1 drawn
    obtain rfl := policiesInScope_ok visible
    exact (Except.ok.inj drawn).symm

/-- A result is the failure of the first of the sources that is out of reach, or an answer if none is. -/
structure Needs {α : Type} (outage : Outage) (sources : List Source) (result : Except QueryFault α) : Prop where
  fails : ∀ fault, result = .error fault ↔ outage.first? sources = some fault
  answers : (∃ answer, result = .ok answer) ↔ outage.first? sources = none

section Needs
variable {α β : Type} {outage : Outage} {sources later : List Source} {result : Except QueryFault α}

theorem Needs.of_error {fault : QueryFault} (first : outage.first? sources = some fault) :
    Needs outage sources (.error fault : Except QueryFault α) := by
  constructor
  · intro other
    rw [first, Except.error.injEq, Option.some.injEq]
  · rw [first]
    exact ⟨fun ⟨_, failed⟩ => (nomatch failed), (nomatch ·)⟩

theorem Needs.of_ok {answer : α} (reached : outage.first? sources = none) :
    Needs outage sources (.ok answer : Except QueryFault α) := by
  constructor
  · intro fault
    rw [reached]
    exact ⟨(nomatch ·), (nomatch ·)⟩
  · exact ⟨fun _ => reached, fun _ => ⟨answer, rfl⟩⟩

theorem needs_reach {source : Source} (listing : α) :
    Needs outage [source] (reach source (outage.fault? source) listing) := by
  have only : outage.first? [source] = (outage.fault? source).map (QueryFault.mk source) := by
    rw [Outage.first?_cons, Outage.first?_nil, Option.or_none]
  cases known : outage.fault? source with
  | none => exact .of_ok (by rw [only, known, Option.map_none])
  | some fault => exact .of_error (by rw [only, known, Option.map_some])

theorem Needs.bind (first : Needs outage sources result) {next : α → Except QueryFault β}
    (rest : ∀ answer, result = .ok answer → Needs outage later (next answer)) :
    Needs outage (sources ++ later) (result >>= next) := by
  cases result with
  | error fault =>
    have found := (first.fails fault).1 rfl
    refine .of_error ?_
    rw [Outage.first?_append, found, Option.some_or]
  | ok answer =>
    have reached := first.answers.1 ⟨answer, rfl⟩
    have remaining := rest answer rfl
    have same : outage.first? (sources ++ later) = outage.first? later := by
      rw [Outage.first?_append, reached, Option.none_or]
    exact ⟨fun fault => by rw [same]; exact remaining.fails fault, by rw [same]; exact remaining.answers⟩

theorem Needs.map (first : Needs outage sources result) (encode : α → β) :
    Needs outage sources (result.map encode) := by
  cases result with
  | error fault => exact .of_error ((first.fails fault).1 rfl)
  | ok answer => exact .of_ok (first.answers.1 ⟨answer, rfl⟩)

/-- A source that is read once more is not needed any more than before. -/
theorem Needs.once {source : Source} (both : Needs outage (source :: source :: later) result) :
    Needs outage (source :: later) result := by
  have same := outage.first?_cons_cons source later
  exact ⟨fun fault => by rw [← same]; exact both.fails fault, by rw [← same]; exact both.answers⟩

end Needs

section Queries
variable {atlas : Atlas} (whole : atlas.outage.Whole)

theorem needs_policiesIn (atlas : Atlas) (kind : PolicyKind) (space : String) :
    Needs atlas.outage [.policies] (atlas.policiesIn kind space) :=
  needs_reach _

theorem needs_bindingsIn (atlas : Atlas) (space : String) :
    Needs atlas.outage [.bindings] (atlas.bindingsIn space) :=
  needs_reach _

theorem needs_clusters (atlas : Atlas) : Needs atlas.outage [.clusters] atlas.clusters :=
  needs_reach _

include whole

/-- Where the policies of a namespace could be listed, so can the cluster-scoped ones. -/
theorem needs_clusterPolicies {kind : PolicyKind} {space : String} {own : List Policy}
    (listed : atlas.policiesIn kind space = .ok own) : Needs atlas.outage [] (atlas.clusterPolicies kind) := by
  obtain ⟨reached, -⟩ := reach_ok_iff.1 listed
  have agree : atlas.outage.clusterPolicies.isSome = atlas.outage.policies.isSome := whole
  rw [reached, Option.isSome_none, Option.isSome_eq_false_iff, Option.isNone_iff_eq_none] at agree
  have answered : atlas.clusterPolicies kind = .ok (atlas.store.clusterPolicies kind) := by
    unfold clusterPolicies
    rw [agree]
    rfl
  rw [answered]
  exact .of_ok atlas.outage.first?_nil

theorem needs_governing? (kind : PolicyKind) (w : Workload) :
    Needs atlas.outage [.policies] (atlas.governing? kind w) := by
  refine (needs_policiesIn atlas kind w.space).bind ?_
  intro own listed
  cases own.find? (·.governs w) with
  | some policy => exact .of_ok atlas.outage.first?_nil
  | none => exact (needs_clusterPolicies whole listed).map _

theorem needs_governingPolicies (w : Workload) : Needs atlas.outage [.policies] (atlas.governingPolicies w) := by
  apply Needs.once
  refine (needs_governing? whole .propagation w).bind ?_
  intro propagation _
  exact (needs_governing? whole .override w).map _

theorem needs_visiblePolicies (kind : PolicyKind) (space : String) :
    Needs atlas.outage [.policies] (atlas.visiblePolicies kind space) := by
  refine (needs_policiesIn atlas kind space).bind ?_
  intro own listed
  exact (needs_clusterPolicies whole listed).map _

theorem needs_policiesInScope (kind : PolicyKind) (space : String) :
    Needs atlas.outage [.policies] (atlas.policiesInScope kind space) := by
  refine (needs_policiesIn atlas kind space).bind ?_
  intro own listed
  split
  case isTrue blank => exact (needs_clusterPolicies whole listed).map _
  case isFalse named => exact .of_ok atlas.outage.first?_nil

theorem needs_viewDraft (w : Workload) : Needs atlas.outage [.policies, .bindings] (atlas.viewDraft w) := by
  refine (needs_governingPolicies whole w).bind ?_
  intro policies _
  exact (needs_bindingsIn atlas w.space).map _

theorem needs_view (w : Workload) : Needs atlas.outage [.policies, .bindings] (atlas.view w) :=
  (needs_viewDraft whole w).map _

theorem needs_topology (scope : TopologyScope) :
    Needs atlas.outage [.clusters, .policies] (atlas.topology scope) := by
  refine (needs_clusters atlas).bind ?_
  intro clusters _
  cases scope with
  | resource w => exact (needs_visiblePolicies whole .propagation w.space).map _
  | overview space => exact (needs_policiesInScope whole .propagation space).map _

omit whole

theorem needs_simulatePlacement (atlas : Atlas) (request : PlacementRequest) :
    Needs atlas.outage [.clusters] (atlas.simulatePlacement request) :=
  (needs_clusters atlas).map _

theorem needs_distribution (atlas : Atlas) (space : String) :
    Needs atlas.outage [.bindings] (atlas.distribution space) :=
  (needs_bindingsIn atlas space).map _

theorem needs_clusterViews (atlas : Atlas) : Needs atlas.outage [.clusters] atlas.clusterViews :=
  (needs_clusters atlas).map _

end Queries

end Atlas

end ReplicaAtlas
