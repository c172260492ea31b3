import ReplicaAtlas.Proofs.Atlas.Reading
import ReplicaAtlas.Proofs.Table.Listing
import ReplicaAtlas.Proofs.Topology.Contents

/-!
The graph around a workload is part of the overview of everything. The policies that govern the workload are among all
policies, and every cluster that one of them lists is drawn in the overview too: as one of the registered clusters, or
as one that policies mention without its being registered. Only places differ, and the workload itself with its edges
is left out of an overview.
-/
namespace ReplicaAtlas

namespace Vertex

/-- The vertices show the same, in whatever places they are drawn. -/
structure SameShown (v u : Vertex) : Prop where
  id : v.id = u.id
  kind : v.kind = u.kind
  name : v.name = u.name
  space : v.space = u.space
  status : v.status = u.status
  properties : v.properties = u.properties

theorem sameShown_of_unplaced {v u : Vertex} (same : v.unplaced = u.unplaced) : v.SameShown u where
  id := congrArg (·.id) same
  kind := congrArg (·.kind) same
  name := congrArg (·.name) same
  space := congrArg (·.space) same
  status := congrArg (·.status) same
  properties := congrArg (·.properties) same

end Vertex

namespace Topology

/-- The policies, the clusters and the edges between them are drawn in the other graph as well. -/
structure EmbedsIn (t whole : Topology) : Prop where
  vertices : ∀ v ∈ t.vertices, v.kind = .policy ∨ v.kind = .cluster → ∃ u ∈ whole.vertices, v.SameShown u
  edges : ∀ e ∈ t.edges, e.kind = .schedule → e ∈ whole.edges

section Overview
variable {policies : List Policy} {clusters : List Cluster}

theorem mem_overview_of_policy {policy : Policy} (member : policy ∈ policies) :
    unplacedPolicy policy ∈ (overview policies clusters).vertices.map Vertex.unplaced := by
  apply (overview_perm policies clusters).mem_iff.2
  have drawn := List.mem_map_of_mem (f := unplacedPolicy) member
  simp [drawn]

/-- A registered cluster is drawn as such, and any other one is drawn where a policy first mentions it. -/
theorem mem_overview_of_listed {policy : Policy} (member : policy ∈ policies) {name : String}
    (listed : name ∈ policy.placement.clusterNames) :
    listedCluster clusters name ∈ (overview policies clusters).vertices.map Vertex.unplaced := by
  apply (overview_perm policies clusters).mem_iff.2
  cases found : named? clusters name with
  | some cluster =>
    obtain ⟨registered, rfl⟩ := named?_eq_some found
    have same : listedCluster clusters cluster.name = registeredCluster cluster := by
      rw [listedCluster, found]
      rfl
    have drawn := List.mem_map_of_mem (f := registeredCluster) registered
    rw [same]
    simp [drawn]
  | none =>
    have mentioned : name ∈ mentions (clusters.map (·.name)) policies :=
      mem_mentions.2 ⟨⟨policy, member, listed⟩, named?_eq_none found⟩
    have same : listedCluster clusters name = unregisteredCluster name := by
      rw [listedCluster, found]
      rfl
    have drawn := List.mem_map_of_mem (f := unregisteredCluster) mentioned
    rw [same]
    simp [drawn]

end Overview

section Embedding
variable {w : Workload} {policies all : List Policy} {clusters : List Cluster}
  (included : ∀ policy ∈ policies, policy ∈ all)

include included

theorem vertex_embeds {v : Vertex} (drawn : v ∈ (ofWorkload w policies clusters).vertices)
    (kinds : v.kind = .policy ∨ v.kind = .cluster) : ∃ u ∈ (overview all clusters).vertices, v.SameShown u := by
  have member := List.mem_map_of_mem (f := Vertex.unplaced) drawn
  have found : v.unplaced ∈ (overview all clusters).vertices.map Vertex.unplaced := by
    rw [(ofWorkload_perm w policies clusters).mem_iff, List.mem_cons, List.mem_append] at member
    rcases member with workload | cluster | policy
    · have kind : v.kind = .resource := congrArg (·.kind) workload
      simp [kind] at kinds
    · obtain ⟨name, mentioned, same⟩ := List.mem_map.1 cluster
      obtain ⟨⟨policy, governs, listed⟩, -⟩ := mem_mentions.1 mentioned
      rw [← same]
      exact mem_overview_of_listed (included policy (List.mem_of_mem_filter governs)) listed
    · obtain ⟨policy, governs, same⟩ := List.mem_map.1 policy
      rw [← same]
      exact mem_overview_of_policy (included policy (List.mem_of_mem_filter governs))
  obtain ⟨u, shown, same⟩ := List.mem_map.1 found
  exact ⟨u, shown, Vertex.sameShown_of_unplaced same.symm⟩

theorem edge_embeds {e : Edge} (drawn : e ∈ (ofWorkload w policies clusters).edges) (kind : e.kind = .schedule) :
    e ∈ (overview all clusters).edges := by
  obtain ⟨policy, governs, leads⟩ := List.mem_flatMap.1 drawn
  rcases List.mem_cons.1 leads with applies | schedules
  · rw [applies] at kind
    exact nomatch kind
  · exact List.mem_flatMap.2 ⟨policy, included policy (List.mem_of_mem_filter governs), schedules⟩

theorem ofWorkload_embedsIn : (ofWorkload w policies clusters).EmbedsIn (overview all clusters) where
  vertices _ := vertex_embeds included
  edges _ := edge_embeds included

end Embedding

end Topology

namespace Store

/-- The scope without a namespace has all policies that are stored. -/
theorem mem_inScope_all {s : Store} {kind : PolicyKind} {policy : Policy} :
    policy ∈ s.inScope kind "" ↔ policy ∈ (s.policies kind).values := by
  have listings : s.inScope kind "" = s.policiesIn kind "" ++ s.clusterPolicies kind := rfl
  simp only [listings, List.mem_append, policiesIn, clusterPolicies, Table.mem_valuesWhere, Table.mem_values]
  constructor
  · intro listed
    rcases listed with ⟨key, stands, -⟩ | ⟨key, stands, -⟩
    · exact ⟨key, stands⟩
    · exact ⟨key, stands⟩
  · intro ⟨key, stands⟩
    cases test : isClusterScopedKey key with
    | true => exact .inr ⟨key, stands, test⟩
    | false => exact .inl ⟨key, stands, by simp [test]⟩

theorem mem_inScope_of_reaching {s : Store} {kind : PolicyKind} {space : String} {policy : Policy}
    (reaches : policy ∈ s.reaching kind space) : policy ∈ s.inScope kind "" := by
  apply mem_inScope_all.2
  apply Table.mem_values.2
  rcases List.mem_append.1 reaches with own | clusterScoped
  · obtain ⟨key, stands, -⟩ := Table.mem_valuesWhere.1 own
    exact ⟨key, stands⟩
  · obtain ⟨key, stands, -⟩ := Table.mem_valuesWhere.1 clusterScoped
    exact ⟨key, stands⟩

end Store

structure Outage.SparesGraphs (outage : Outage) : Prop where
  clusters : outage.clusters = .none
  policies : outage.policies = .none
  clusterPolicies : outage.clusterPolicies = .none

namespace Atlas

theorem topology_of_sparesGraphs {atlas : Atlas} (spared : atlas.outage.SparesGraphs) (scope : TopologyScope) :
    ∃ topology, atlas.topology scope = .ok topology := by
  have whole : atlas.outage.Whole := by simp [Outage.Whole, spared.policies, spared.clusterPolicies]
  have inReach : atlas.outage.first? [.clusters, .policies] = none := by
    simp [Outage.first?, Outage.fault?, spared.clusters, spared.policies]
  exact (needs_topology whole scope).answers.2 inReach

theorem sparesGraphs_of_drawn {atlas : Atlas} {w : Workload} {topology : Topology}
    (drawn : atlas.topology (.resource w) = .ok topology) : atlas.outage.SparesGraphs := by
  obtain ⟨clusters, listed, drawn⟩ := bind_ok_iff.1 drawn
  obtain ⟨policies, visible, drawn⟩ := bind_ok_iff.1 drawn
  obtain ⟨own, ownListed, visible⟩ := bind_ok_iff.1 visible
  obtain ⟨clusterScoped, scopedListed, visible⟩ := bind_ok_iff.1 visible
  exact ⟨(reach_ok_iff.1 listed).1, (reach_ok_iff.1 ownListed).1, (reach_ok_iff.1 scopedListed).1⟩

/-- A graph is drawn around a workload just if its listings are in reach, and then the overview of all namespaces is
drawn too and has its policies, its clusters and the edges between them. -/
theorem graph_embeds_in_overview (atlas : Atlas) (w : Workload) :
    ((∃ topology, atlas.topology (.resource w) = .ok topology) ↔ atlas.outage.SparesGraphs) ∧
      ∀ topology, atlas.topology (.resource w) = .ok topology →
        ∃ whole, atlas.topology (.overview "") = .ok whole ∧ topology.EmbedsIn whole := by
  refine ⟨⟨?_, fun spared => topology_of_sparesGraphs spared _⟩, ?_⟩
  · intro ⟨topology, drawn⟩
    exact sparesGraphs_of_drawn drawn
  · intro topology drawn
    obtain ⟨whole, overviewed⟩ := topology_of_sparesGraphs (sparesGraphs_of_drawn drawn) (.overview "")
    refine ⟨whole, overviewed, ?_⟩
    rw [topology_ok drawn, topology_ok overviewed]
    exact Topology.ofWorkload_embedsIn fun policy => Store.mem_inScope_of_reaching

def deploymentsOn (clusters : List String) (name : String) (space : Option String) : Policy :=
  ⟨name, space, [⟨"", "Deployment", "", ""⟩], ⟨some clusters, none, none⟩⟩

def partlyRegistered : Atlas where
  store := (((Store.empty.putCluster ⟨"east", .empty, false, "v1.30.0", [], .none, ⟨0, 0⟩⟩).putPolicy .propagation
    (deploymentsOn ["west", "east"] "web" (some "team"))).putPolicy .propagation
      (deploymentsOn ["east"] "all" none)).putPolicy .propagation (deploymentsOn ["north", "west"] "web" (some "ops"))
  outage := .none
  members := .empty
  options := .default
  limits := .default

theorem graph_embeds_in_overview_partly_registered :
    let w : Workload := ⟨"team", "web", "Deployment", "apps/v1"⟩
    ∃ topology whole, partlyRegistered.topology (.resource w) = .ok topology ∧
      partlyRegistered.topology (.overview "") = .ok whole ∧ topology.EmbedsIn whole ∧
      topology.vertices.map (·.id) =
        ["resource-team-web", "cluster-west", "cluster-east", "policy-team-web", "policy-all"] ∧
      whole.vertices.map (·.id) = ["cluster-east", "cluster-north", "cluster-west", "policy-ops-web", "policy-team-web",
        "policy-all", "resources-summary"] := by
  intro w
  obtain ⟨whole, overviewed, embeds⟩ := (graph_embeds_in_overview partlyRegistered w).2 _ rfl
  have ids : (partlyRegistered.topology (.overview "")).map (fun topology => topology.vertices.map (·.id)) =
      .ok ["cluster-east", "cluster-north", "cluster-west", "policy-ops-web", "policy-team-web", "policy-all",
        "resources-summary"] := by decide +kernel
  rw [overviewed] at ids
  exact ⟨_, whole, rfl, overviewed, embeds, by decide +kernel, Except.ok.inj ids⟩

end Atlas

end ReplicaAtlas
