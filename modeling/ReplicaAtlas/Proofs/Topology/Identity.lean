import ReplicaAtlas.Proofs.Atlas.Reading
import ReplicaAtlas.Proofs.Store.Run
import ReplicaAtlas.Proofs.Topology.Contents

/-!
Which vertices of a drawn graph have an identifier of their own. Clusters are drawn once each and identified by their
names, and vertices of different kinds never share an identifier. A policy is identified by its label, its name behind
its namespace and a hyphen, and names may have hyphens too, so identifiers are distinct just if the labels of the
drawn policies are.
-/
namespace ReplicaAtlas

namespace Policy

def label (policy : Policy) : String :=
  match policy.space with
  | some space => space ++ "-" ++ policy.name
  | none => policy.name

/-- The part of a label before the first hyphen, if it has one, is the namespace. -/
structure PlainScope (policy : Policy) : Prop where
  space : ∀ space, policy.space = some space → '-' ∉ space.toList
  name : policy.space = none → '-' ∉ policy.name.toList

private theorem append_hyphen_inj {space other name rest : List Char} (plain : '-' ∉ space) (otherPlain : '-' ∉ other)
    (same : space ++ '-' :: name = other ++ '-' :: rest) : space = other ∧ name = rest := by
  induction space generalizing other with
  | nil =>
    cases other with
    | nil => exact ⟨rfl, (List.cons.inj same).2⟩
    | cons c cs => exact absurd ((List.cons.inj same).1 ▸ List.mem_cons_self) otherPlain
  | cons d ds ih =>
    cases other with
    | nil => exact absurd ((List.cons.inj same).1 ▸ List.mem_cons_self) plain
    | cons c cs =>
      obtain ⟨rfl, tails⟩ := List.cons.inj same
      have dsPlain : '-' ∉ ds := fun member => plain (List.mem_cons_of_mem d member)
      have csPlain : '-' ∉ cs := fun member => otherPlain (List.mem_cons_of_mem d member)
      obtain ⟨rfl, names⟩ := ih dsPlain csPlain tails
      exact ⟨rfl, names⟩

private theorem toList_spaced (space name : String) :
    (space ++ "-" ++ name).toList = space.toList ++ '-' :: name.toList := by
  simp [String.toList_append]

/-- Without hyphens in namespaces and in the names of cluster-scoped policies labels tell policies apart. -/
theorem label_inj {p q : Policy} (plainP : p.PlainScope) (plainQ : q.PlainScope) (same : p.label = q.label) :
    p.space = q.space ∧ p.name = q.name := by
  unfold label at same
  cases spaceP : p.space with
  | none =>
    cases spaceQ : q.space with
    | none =>
      simp only [spaceP, spaceQ] at same
      exact ⟨rfl, same⟩
    | some other =>
      simp only [spaceP, spaceQ] at same
      have hyphen : '-' ∈ p.name.toList := by
        rw [same, toList_spaced]
        exact List.mem_append_right _ List.mem_cons_self
      exact absurd hyphen (plainP.name spaceP)
  | some space =>
    cases spaceQ : q.space with
    | none =>
      simp only [spaceP, spaceQ] at same
      have hyphen : '-' ∈ q.name.toList := by
        rw [← same, toList_spaced]
        exact List.mem_append_right _ List.mem_cons_self
      exact absurd hyphen (plainQ.name spaceQ)
    | some other =>
      simp only [spaceP, spaceQ] at same
      have lists := congrArg String.toList same
      rw [toList_spaced, toList_spaced] at lists
      obtain ⟨spaces, names⟩ := append_hyphen_inj (plainP.space space spaceP) (plainQ.space other spaceQ) lists
      exact ⟨congrArg some (String.toList_inj.1 spaces), String.toList_inj.1 names⟩

end Policy

namespace Topology

theorem policyId_eq (policy : Policy) : policyId policy = "policy-" ++ policy.label := by
  unfold policyId Policy.label
  cases policy.space with
  | none => rfl
  | some space => simp only [String.append_assoc]

theorem append_injective (beginning : String) : Function.Injective (beginning ++ ·) := by
  intro a b same
  have lists := congrArg String.toList same
  rw [String.toList_append, String.toList_append, List.append_cancel_left_eq] at lists
  exact String.toList_inj.1 lists

theorem clusterId_injective : Function.Injective clusterId := append_injective "cluster-"

theorem head?_policyId (policy : Policy) : (policyId policy).toList.head? = some 'p' := by
  rw [policyId_eq, String.toList_append]
  rfl

theorem head?_clusterId (name : String) : (clusterId name).toList.head? = some 'c' := by
  rw [clusterId, String.toList_append]
  rfl

theorem head?_resourceId (w : Workload) : (resourceId w).toList.head? = some 'r' := by
  rw [resourceId, String.append_assoc, String.append_assoc, String.toList_append]
  rfl

theorem head?_summaryId : summaryId.toList.head? = some 'r' := rfl

theorem ne_of_head? {a b : String} {c d : Char} (headA : a.toList.head? = some c) (headB : b.toList.head? = some d)
    (differ : c ≠ d) : a ≠ b := by
  rintro rfl
  exact differ (Option.some.inj (headA.symm.trans headB))

theorem policyIds_nodup_iff (policies : List Policy) :
    (policies.map policyId).Nodup ↔ (policies.map Policy.label).Nodup := by
  have labels : policies.map policyId = (policies.map Policy.label).map ("policy-" ++ ·) := by
    rw [List.map_map]
    exact List.map_congr_left fun policy _ => policyId_eq policy
  rw [labels]
  exact List.nodup_map_iff (append_injective "policy-")

private theorem nodup_ids_iff {others : List String} {names : List String} {policies : List Policy}
    (namesDistinct : names.Nodup) (othersDistinct : others.Nodup)
    (apart : ∀ other ∈ others, other.toList.head? = some 'r') :
    (others ++ (names.map clusterId ++ policies.map policyId)).Nodup ↔ (policies.map Policy.label).Nodup := by
  rw [List.nodup_append, List.nodup_append, policyIds_nodup_iff]
  constructor
  · rintro ⟨-, ⟨-, distinct, -⟩, -⟩
    exact distinct
  · intro distinct
    refine ⟨othersDistinct, ⟨(List.nodup_map_iff clusterId_injective).2 namesDistinct, distinct, ?_⟩, ?_⟩
    · intro id cluster other policy
      obtain ⟨name, -, rfl⟩ := List.mem_map.1 cluster
      obtain ⟨shown, -, rfl⟩ := List.mem_map.1 policy
      exact ne_of_head? (head?_clusterId name) (head?_policyId shown) (by decide)
    · intro id other drawn member
      rcases List.mem_append.1 member with cluster | policy
      · obtain ⟨name, -, rfl⟩ := List.mem_map.1 cluster
        exact ne_of_head? (apart id other) (head?_clusterId name) (by decide)
      · obtain ⟨shown, -, rfl⟩ := List.mem_map.1 policy
        exact ne_of_head? (apart id other) (head?_policyId shown) (by decide)

theorem ofWorkload_ids_nodup_iff (w : Workload) (policies : List Policy) (clusters : List Cluster) :
    ((ofWorkload w policies clusters).vertices.map (·.id)).Nodup ↔
      ((policies.filter (·.governs w)).map Policy.label).Nodup := by
  have drawn := ofWorkload_ids_perm w policies clusters
  refine drawn.nodup_iff.trans ?_
  refine nodup_ids_iff (mentions_fresh [] _).1 (List.nodup_singleton (resourceId w)) ?_
  intro id member
  rw [List.mem_singleton.1 member]
  exact head?_resourceId w

theorem overview_ids_nodup_iff (policies : List Policy) {clusters : List Cluster}
    (distinct : (clusters.map (·.name)).Nodup) :
    ((overview policies clusters).vertices.map (·.id)).Nodup ↔ (policies.map Policy.label).Nodup := by
  have drawn := overview_ids_perm policies clusters
  rw [drawn.nodup_iff]
  refine nodup_ids_iff (append_mentions_nodup distinct policies) (List.nodup_singleton summaryId) ?_
  intro id member
  rw [List.mem_singleton.1 member]
  exact head?_summaryId

end Topology

def Store.drawnPolicies (s : Store) : TopologyScope → List Policy
  | .resource w => (s.reaching .propagation w.space).filter (·.governs w)
  | .overview space => s.inScope .propagation space

theorem Policy.labels_nodup {policies : List Policy} (plain : ∀ policy ∈ policies, policy.PlainScope)
    (distinct : policies.Pairwise fun p q => ¬ (p.space = q.space ∧ p.name = q.name)) :
    (policies.map Policy.label).Nodup := by
  refine List.pairwise_map.2 (distinct.imp_of_mem fun memberP memberQ differ same => ?_)
  exact differ (label_inj (plain _ memberP) (plain _ memberQ) same)

namespace Atlas
open Store

theorem topology_ids_nodup_iff {atlas : Atlas} {scope : TopologyScope} {topology : Topology}
    (drawn : atlas.topology scope = .ok topology) (distinct : (atlas.store.clusterList.map (·.name)).Nodup) :
    (topology.vertices.map (·.id)).Nodup ↔ ((atlas.store.drawnPolicies scope).map Policy.label).Nodup := by
  rw [topology_ok drawn]
  cases scope with
  | resource w => exact Topology.ofWorkload_ids_nodup_iff w _ _
  | overview space => exact Topology.overview_ids_nodup_iff _ distinct

/-- The vertices of every drawn graph have identifiers of their own just if the labels of the drawn policies differ. For
policies that differ in namespace or name that is so as long as neither namespaces nor the names of cluster-scoped
policies have hyphens. -/
theorem vertices_distinct_by_labels (atlas : Atlas) (scope : TopologyScope) (topology : Topology)
    (drawn : atlas.topology scope = .ok topology) (clusters : (atlas.store.clusterList.map (·.name)).Nodup) :
    ((topology.vertices.map (·.id)).Nodup ↔ ((atlas.store.drawnPolicies scope).map Policy.label).Nodup) ∧
      ((∀ policy ∈ atlas.store.drawnPolicies scope, policy.PlainScope) →
        (atlas.store.drawnPolicies scope).Pairwise (fun p q => ¬ (p.space = q.space ∧ p.name = q.name)) →
          (topology.vertices.map (·.id)).Nodup) := by
  have exact_condition := topology_ids_nodup_iff drawn clusters
  exact ⟨exact_condition, fun plain distinct => exact_condition.2 (Policy.labels_nodup plain distinct)⟩

def publishing (policies : List (Option String × String)) : List StoreOperation :=
  policies.map fun (space, name) =>
    .put (.policies .propagation) ⟨name, space, [⟨"", "Deployment", "", ""⟩], .unrestricted⟩

def vertexIds (atlas : Atlas) (scope : TopologyScope) : Except QueryFault (List String) :=
  (atlas.topology scope).map fun topology => topology.vertices.map (·.id)

/-- Policies that differ in namespace and name have one identifier, in the overview and around one workload. -/
theorem hyphens_blur_vertices :
    let atlas : Atlas := { Atlas.empty with store := run (publishing [(some "a", "b-c"), (some "a-b", "c"), (none, "a-b-c")]) }
    (atlas.store.clusterList.map (·.name)).Nodup ∧
      (atlas.store.inScope .propagation "").map (fun policy => (policy.space, policy.name)) =
        [(some "a-b", "c"), (some "a", "b-c"), (none, "a-b-c")] ∧
      atlas.vertexIds (.overview "") =
        .ok ["policy-a-b-c", "policy-a-b-c", "policy-a-b-c", "resources-summary"] ∧
      atlas.vertexIds (.resource ⟨"a", "nginx", "Deployment", "apps/v1"⟩) =
        .ok ["resource-a-nginx", "policy-a-b-c", "policy-a-b-c"] ∧
      ¬ ["policy-a-b-c", "policy-a-b-c", "policy-a-b-c", "resources-summary"].Nodup ∧
      ¬ ["resource-a-nginx", "policy-a-b-c", "policy-a-b-c"].Nodup := by
  intro atlas
  have overview : atlas.vertexIds (.overview "") =
      .ok ["policy-a-b-c", "policy-a-b-c", "policy-a-b-c", "resources-summary"] := by decide +kernel
  have around : atlas.vertexIds (.resource ⟨"a", "nginx", "Deployment", "apps/v1"⟩) =
      .ok ["resource-a-nginx", "policy-a-b-c", "policy-a-b-c"] := by decide +kernel
  have stored : (atlas.store.inScope .propagation "").map (fun policy => (policy.space, policy.name)) =
      [(some "a-b", "c"), (some "a", "b-c"), (none, "a-b-c")] := by decide +kernel
  exact ⟨List.nodup_nil, stored, overview, around, by decide, by decide⟩

/-- With the hyphens in names alone the vertices are told apart. -/
theorem vertices_distinct_by_labels_plain :
    let atlas : Atlas :=
      { Atlas.empty with store := run (publishing [(some "a", "b-c"), (some "a", "b"), (none, "b")]) }
    ∃ topology, atlas.topology (.overview "") = .ok topology ∧
      (atlas.store.clusterList.map (·.name)).Nodup ∧ (topology.vertices.map (·.id)).Nodup := by
  intro atlas
  have labels : (atlas.store.drawnPolicies (.overview "")).map Policy.label = ["a-b", "a-b-c", "b"] := by decide +kernel
  refine ⟨_, rfl, List.nodup_nil, ?_⟩
  refine (vertices_distinct_by_labels atlas (.overview "") _ rfl List.nodup_nil).1.2 ?_
  rw [labels]
  decide

end Atlas

end ReplicaAtlas
