import ReplicaAtlas.Proofs.Atlas.View
import ReplicaAtlas.Proofs.Policy.Precedence
import ReplicaAtlas.Proofs.Topology.Embedding
import ReplicaAtlas.Proofs.Topology.Kinds

/-!
The view of a workload and the graph around it show one governing policy. The view looks for it in one listing and then
in another and stops at the first that governs the workload; the graph draws all that govern it, from both listings
together. The policies that a namespace sees stand in one order, so the first that is drawn is the one that is viewed.
-/
namespace ReplicaAtlas

def commonKinds : List String :=
  ["Deployment", "StatefulSet", "DaemonSet", "ReplicaSet", "Job", "CronJob", "Service", "Pod"]

theorem canonicalKind_common_or_same (name : String) :
    canonicalKind name ∈ commonKinds ∨ canonicalKind name = name := by
  unfold canonicalKind
  dsimp only
  split_ifs <;> simp [commonKinds]

theorem canonicalKind_of_common : ∀ kind ∈ commonKinds, canonicalKind kind = kind := by
  decide +kernel

theorem canonicalKind_idempotent (name : String) : canonicalKind (canonicalKind name) = canonicalKind name := by
  rcases canonicalKind_common_or_same name with common | same
  · exact canonicalKind_of_common _ common
  · rw [same, same]

/-- The scope of a graph has the kind made canonical twice, which is once too often and does no harm. -/
theorem TopologyScope.ofQuery_eq {kind space name : String} (kindGiven : kind ≠ "") (spaceGiven : space ≠ "")
    (nameGiven : name ≠ "") : ofQuery kind space name = .resource (.named space name kind) := by
  have again : Workload.named space name (canonicalKind kind) = Workload.named space name kind := by
    simp only [Workload.named, canonicalKind_idempotent]
  simp [ofQuery, kindGiven, spaceGiven, nameGiven, again]

/-- A place where a namespace sees a policy: among its own or among the cluster-scoped ones, under a key. The policies
of a namespace that starts with a slash are seen in both places. -/
structure Sight where
  clusterScoped : Bool
  key : String
  policy : Policy

def Sight.Precedes (a b : Sight) : Prop :=
  (a.clusterScoped = false ∧ b.clusterScoped = true) ∨
    (a.clusterScoped = b.clusterScoped ∧ Text.Utf8.bytes a.key < Text.Utf8.bytes b.key)

namespace Store

structure Sees (s : Store) (kind : PolicyKind) (space : String) (sight : Sight) : Prop where
  stands : (s.policies kind).get? sight.key = some sight.policy
  within : if sight.clusterScoped then isClusterScopedKey sight.key = true else isWithin space sight.key = true

def sightsWhere (s : Store) (kind : PolicyKind) (clusterScoped : Bool) (test : String → Bool) : List Sight :=
  ((s.policies kind).entries.filter fun e => test e.1).map fun e => ⟨clusterScoped, e.1, e.2⟩

def sights (s : Store) (kind : PolicyKind) (space : String) : List Sight :=
  s.sightsWhere kind false (isWithin space) ++ s.sightsWhere kind true isClusterScopedKey

section Sights
variable {s : Store} {kind : PolicyKind} {space : String}

theorem sightsWhere_policies (clusterScoped : Bool) (test : String → Bool) :
    (s.sightsWhere kind clusterScoped test).map (·.policy) = (s.policies kind).valuesWhere test := by
  rw [sightsWhere, List.map_map]
  rfl

theorem sights_policies (named : space ≠ "") : (s.sights kind space).map (·.policy) = s.reaching kind space := by
  have own : (s.policies kind).valuesWhere (isWithin space) = s.policiesIn kind space := by
    simp [policiesIn, named]
  rw [sights, List.map_append, sightsWhere_policies, sightsWhere_policies, own]
  rfl

theorem mem_sightsWhere {clusterScoped : Bool} {test : String → Bool} {sight : Sight} :
    sight ∈ s.sightsWhere kind clusterScoped test ↔
      (s.policies kind).get? sight.key = some sight.policy ∧ sight.clusterScoped = clusterScoped ∧
        test sight.key = true := by
  rw [sightsWhere, List.mem_map, Table.get?_eq_some_iff]
  constructor
  · intro ⟨entry, listed, same⟩
    obtain ⟨member, passes⟩ := List.mem_filter.1 listed
    subst same
    exact ⟨member, rfl, passes⟩
  · intro ⟨member, same, passes⟩
    subst same
    exact ⟨(sight.key, sight.policy), List.mem_filter.2 ⟨member, passes⟩, rfl⟩

theorem mem_sights {sight : Sight} : sight ∈ s.sights kind space ↔ s.Sees kind space sight := by
  rw [sights, List.mem_append, mem_sightsWhere, mem_sightsWhere]
  constructor
  · intro seen
    rcases seen with ⟨stands, own, within⟩ | ⟨stands, clusterScoped, within⟩
    · exact ⟨stands, by simp [own, within]⟩
    · exact ⟨stands, by simp [clusterScoped, within]⟩
  · intro ⟨stands, within⟩
    cases scope : sight.clusterScoped with
    | false => exact .inl ⟨stands, rfl, by simpa [scope] using within⟩
    | true => exact .inr ⟨stands, rfl, by simpa [scope] using within⟩

theorem sightsWhere_ordered (clusterScoped : Bool) (test : String → Bool) :
    (s.sightsWhere kind clusterScoped test).Pairwise Sight.Precedes := by
  have ascending : ((s.policies kind).entries.filter fun e => test e.1).Pairwise fun a b => a.1 < b.1 :=
    List.Pairwise.filter _ (s.policies kind).ascending
  apply List.pairwise_map.2
  apply ascending.imp
  intro a b less
  exact .inr ⟨rfl, Text.Utf8.bytes_lt_iff.2 less⟩

theorem sights_ordered : (s.sights kind space).Pairwise Sight.Precedes := by
  apply List.pairwise_append.2
  refine ⟨sightsWhere_ordered _ _, sightsWhere_ordered _ _, ?_⟩
  intro a own b clusterScoped
  obtain ⟨-, first, -⟩ := mem_sightsWhere.1 own
  obtain ⟨-, second, -⟩ := mem_sightsWhere.1 clusterScoped
  exact .inl ⟨first, second⟩

/-- What is viewed is the first of what governs, and what is drawn is all of it. -/
theorem governing?_eq_head? (w : Workload) :
    s.governing? kind w = ((s.reaching kind w.space).filter (·.governs w)).head? := by
  rw [governing?, List.head?_filter]

end Sights

end Store

structure Vertex.ShowsPolicy (v : Vertex) (brief : Policy.Brief) : Prop where
  name : v.name = brief.name
  space : v.space = brief.space
  scope : ("clusterScoped", .bool brief.clusterScoped) ∈ v.properties

theorem Vertex.showsPolicy_of_unplaced {v : Vertex} {policy : Policy}
    (same : v.unplaced = Topology.unplacedPolicy policy) : v.ShowsPolicy policy.brief where
  name := congrArg (·.name) same
  space := congrArg (·.space) same
  scope := by
    have properties : v.properties = (Topology.unplacedPolicy policy).properties := congrArg (·.properties) same
    rw [properties]
    exact List.mem_cons_self

namespace Atlas

/-- A view and a graph of one workload show the same governing policy, and the graph has an edge to each policy that
the workload's namespace sees and that fits the workload, in the order in which the governing one is looked for. -/
structure AgreeOnPolicy (atlas : Atlas) (w : Workload) (view : WorkloadView) (t : Topology) : Prop where
  absent : t.propagations = [] ↔ view.propagation = none
  first : ∀ brief, view.propagation = some brief → ∃ policy : Policy, policy.brief = brief ∧
    t.propagations.head? = some (Topology.propagation w policy) ∧
      ∃ v, t.policyVertices.head? = some v ∧ v.ShowsPolicy brief
  oneForEach : ∃ sights : List Sight, sights.Pairwise Sight.Precedes ∧
    (∀ sight, sight ∈ sights ↔ atlas.store.Sees .propagation w.space sight ∧ sight.policy.Fits w) ∧
      t.propagations = sights.map fun sight => Topology.propagation w sight.policy

theorem view_propagation {atlas : Atlas} {w : Workload} {view : WorkloadView} (shown : atlas.view w = .ok view) :
    view.propagation = (atlas.store.governing? .propagation w).map Policy.brief := by
  obtain ⟨draft, drawn, rfl⟩ := view_ok shown
  rw [viewDraft_ok drawn]
  rfl

theorem agreeOnPolicy {atlas : Atlas} {w : Workload} (named : w.space ≠ "") {view : WorkloadView} {t : Topology}
    (shown : atlas.view w = .ok view) (drawn : atlas.topology (.resource w) = .ok t) :
    atlas.AgreeOnPolicy w view t := by
  let governing := (atlas.store.reaching .propagation w.space).filter (·.governs w)
  have viewed : view.propagation = governing.head?.map Policy.brief := by
    rw [view_propagation shown, Store.governing?_eq_head?]
  have edges : t.propagations = governing.map (Topology.propagation w) := by
    rw [topology_ok drawn]
    exact Topology.ofWorkload_propagations w _ _
  have vertices : t.policyVertices.map Vertex.unplaced = governing.map Topology.unplacedPolicy := by
    rw [topology_ok drawn]
    exact Topology.ofWorkload_policyVertices w _ _
  constructor
  case absent => simp [viewed, edges]
  case first =>
    intro brief told
    rw [viewed] at told
    obtain ⟨policy, found, same⟩ := Option.map_eq_some_iff.1 told
    have heads := congrArg List.head? vertices
    rw [List.head?_map, List.head?_map, found] at heads
    obtain ⟨v, first, shows⟩ := Option.map_eq_some_iff.1 heads
    refine ⟨policy, same, ?_, v, first, same ▸ Vertex.showsPolicy_of_unplaced shows⟩
    rw [edges, List.head?_map, found]
    rfl
  case oneForEach =>
    refine ⟨(atlas.store.sights .propagation w.space).filter (·.policy.governs w), ?_, ?_, ?_⟩
    · exact List.Pairwise.filter _ Store.sights_ordered
    · intro sight
      rw [List.mem_filter, Store.mem_sights, Policy.governs_iff]
    · have policies : governing =
          ((atlas.store.sights .propagation w.space).filter (·.policy.governs w)).map (·.policy) := by
        simp only [governing, ← Store.sights_policies named, List.filter_map]
        rfl
      rw [edges, policies, List.map_map]
      rfl

/-- Asked about a workload in one spelling of its kind, the view and the graph are about the same workload and agree on
the policy that governs it; both answer when everything is in reach. -/
theorem view_and_graph_agree_on_policy (atlas : Atlas) {kind space name : String} (kindGiven : kind ≠ "")
    (spaceGiven : space ≠ "") (nameGiven : name ≠ "") :
    canonicalKind (canonicalKind kind) = canonicalKind kind ∧
      TopologyScope.ofQuery kind space name = .resource (.named space name kind) ∧
      (atlas.outage = .none → ∃ view t, atlas.view (.named space name kind) = .ok view ∧
        atlas.topology (.ofQuery kind space name) = .ok t) ∧
      ∀ view t, atlas.view (.named space name kind) = .ok view → atlas.topology (.ofQuery kind space name) = .ok t →
        atlas.AgreeOnPolicy (.named space name kind) view t := by
  have sameWorkload := TopologyScope.ofQuery_eq kindGiven spaceGiven nameGiven
  refine ⟨canonicalKind_idempotent kind, sameWorkload, ?_, ?_⟩
  · intro inReach
    have whole : atlas.outage.Whole := by simp [inReach, Outage.Whole, Outage.none]
    have spared : atlas.outage.SparesGraphs := by rw [inReach]; exact ⟨rfl, rfl, rfl⟩
    have first : atlas.outage.first? [.policies, .bindings] = none := by rw [inReach]; rfl
    obtain ⟨view, shown⟩ := (needs_view whole (.named space name kind)).answers.2 first
    obtain ⟨t, drawn⟩ := topology_of_sparesGraphs spared (.ofQuery kind space name)
    exact ⟨view, t, shown, drawn⟩
  · intro view t shown drawn
    rw [sameWorkload] at drawn
    exact agreeOnPolicy spaceGiven shown drawn

def governedThrice : Atlas where
  store := ((Store.empty.putPolicy .propagation (deploymentsOn ["east"] "all" none)).putPolicy .propagation
    (deploymentsOn ["west"] "web" (some "team"))).putPolicy .propagation (deploymentsOn ["east"] "api" (some "team"))
  outage := .none
  members := .empty
  options := .default
  limits := .default

theorem view_and_graph_agree_on_policy_governed_thrice :
    let w := Workload.named "team" "nginx" "DEPLOYMENTS"
    let scope := TopologyScope.ofQuery "DEPLOYMENTS" "team" "nginx"
    "DEPLOYMENTS" ≠ "" ∧ "team" ≠ "" ∧ "nginx" ≠ "" ∧
      ∃ view t, governedThrice.view w = .ok view ∧ governedThrice.topology scope = .ok t ∧
        governedThrice.AgreeOnPolicy w view t ∧ view.propagation.map (·.name) = some "api" ∧
        t.propagations.map (·.target) = ["policy-team-api", "policy-team-web", "policy-all"] := by
  intro w scope
  have kindGiven : "DEPLOYMENTS" ≠ "" := by decide
  have spaceGiven : "team" ≠ "" := by decide
  have nameGiven : "nginx" ≠ "" := by decide
  obtain ⟨-, -, answers, agree⟩ :=
    view_and_graph_agree_on_policy governedThrice kindGiven spaceGiven nameGiven
  obtain ⟨view, t, shown, drawn⟩ := answers rfl
  have viewed : (governedThrice.view w).map (fun view => view.propagation.map (·.name)) = .ok (some "api") := by
    decide +kernel
  have targets : (governedThrice.topology scope).map (fun t => t.propagations.map (·.target)) =
      .ok ["policy-team-api", "policy-team-web", "policy-all"] := by decide +kernel
  rw [shown] at viewed
  rw [drawn] at targets
  exact ⟨kindGiven, spaceGiven, nameGiven, view, t, shown, drawn, agree view t shown drawn,
    Except.ok.inj viewed, Except.ok.inj targets⟩

end Atlas

end ReplicaAtlas
