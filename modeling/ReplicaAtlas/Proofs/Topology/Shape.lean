import Mathlib.Logic.Relation
import ReplicaAtlas.Proofs.Topology.Kinds

/-!
The shape of graphs. Edges are drawn before the policies that they lead to, and clusters only where they are mentioned
first, perhaps by another policy; all the same no edge leads to or from nothing. Around a workload everything is drawn
for a policy that governs the workload, so the edges lead from the workload to all of it.
-/
namespace ReplicaAtlas.Topology

def Closed (t : Topology) : Prop :=
  ∀ e ∈ t.edges, e.source ∈ t.vertices.map (·.id) ∧ e.target ∈ t.vertices.map (·.id)

def schedule (policy : Policy) (name : String) : Edge := ⟨policyId policy, clusterId name, .schedule⟩

theorem mem_scheduleEdges {policy : Policy} {e : Edge} :
    e ∈ scheduleEdges policy ↔ ∃ name ∈ policy.placement.clusterNames, e = schedule policy name := by
  rw [scheduleEdges, List.mem_map]
  simp only [schedule, eq_comm]

theorem inTurn_kinds {cluster : String → Vertex} (shows : ∀ name, (cluster name).kind = .cluster) {seen : List String}
    {policies : List Policy} {v : Vertex} (drawn : v ∈ inTurn cluster seen policies) :
    v.kind = .policy ∨ v.kind = .cluster := by
  rw [(inTurn_perm cluster seen policies).mem_iff, List.mem_append] at drawn
  rcases drawn with mentioned | listed
  · obtain ⟨name, -, rfl⟩ := List.mem_map.1 mentioned
    exact .inr (shows name)
  · obtain ⟨policy, -, rfl⟩ := List.mem_map.1 listed
    exact .inl rfl

section Workload
variable {w : Workload} {policies : List Policy} {clusters : List Cluster}

end Workload

/-- Of two records of one name the later one tells the status. -/
example :
    let record (ready : Bool) : Cluster := ⟨"east", .empty, ready, "v1.30.0", [], .none, ⟨0, 0⟩⟩
    let policy : Policy := ⟨"web", none, [⟨"", "Deployment", "", ""⟩], ⟨some ["west", "east", "west"], none, none⟩⟩
    let t := ofWorkload ⟨"team", "nginx", "Deployment", "apps/v1"⟩ [policy] [record true, record false]
    t.clusterVertices.map (fun v => (v.name, v.status)) = [("west", "unknown"), ("east", "not-ready")] ∧
      t.edges.map (·.target) = ["policy-web", "cluster-west", "cluster-east", "cluster-west"] := by
  decide +kernel

section Overview
variable {policies : List Policy} {clusters : List Cluster}

theorem mem_overview_ids {id : String} :
    id ∈ (overview policies clusters).vertices.map (·.id) ↔
      id = summaryId ∨ (∃ cluster ∈ clusters, id = clusterId cluster.name) ∨ ∃ policy ∈ policies,
        id = policyId policy ∨ ∃ name ∈ policy.placement.clusterNames, id = clusterId name := by
  rw [(overview_ids_perm policies clusters).mem_iff, List.mem_cons, List.mem_append, List.mem_map, List.mem_map]
  refine or_congr_right ⟨?_, ?_⟩
  · rintro (⟨name, shown, rfl⟩ | ⟨policy, member, rfl⟩)
    · rcases mem_append_mentions.1 shown with registered | ⟨policy, member, listed⟩
      · obtain ⟨cluster, member, rfl⟩ := List.mem_map.1 registered
        exact .inl ⟨cluster, member, rfl⟩
      · exact .inr ⟨policy, member, .inr ⟨name, listed, rfl⟩⟩
    · exact .inr ⟨policy, member, .inl rfl⟩
  · rintro (⟨cluster, member, rfl⟩ | ⟨policy, member, rfl | ⟨name, listed, rfl⟩⟩)
    · exact .inl ⟨cluster.name, mem_append_mentions.2 (.inl (List.mem_map_of_mem member)), rfl⟩
    · exact .inr ⟨policy, member, rfl⟩
    · exact .inl ⟨name, mem_append_mentions.2 (.inr ⟨policy, member, listed⟩), rfl⟩

theorem mem_overview_edges {e : Edge} :
    e ∈ (overview policies clusters).edges ↔
      ∃ policy ∈ policies, ∃ name ∈ policy.placement.clusterNames, e = schedule policy name := by
  simp only [overview, List.mem_flatMap, mem_scheduleEdges]

theorem overview_closed : (overview policies clusters).Closed := by
  intro e drawn
  rw [mem_overview_ids, mem_overview_ids]
  obtain ⟨policy, member, name, listed, rfl⟩ := mem_overview_edges.1 drawn
  exact ⟨.inr (.inr ⟨policy, member, .inl rfl⟩), .inr (.inr ⟨policy, member, .inr ⟨name, listed, rfl⟩⟩)⟩

variable (policies clusters)

theorem overview_clusters_shown :
    (overview policies clusters).clusterVertices.map (fun v => (v.id, v.name, v.status)) =
      clusters.map (fun cluster =>
        (clusterId cluster.name, cluster.name, if cluster.ready then "ready" else "not-ready")) ++
      (mentions (clusters.map (·.name)) policies).map fun name => (clusterId name, name, "unknown") := by
  have shown := congrArg (List.map fun v => (v.id, v.name, v.status)) (overview_clusterVertices policies clusters)
  rw [List.map_append, List.map_map, List.map_map, List.map_map] at shown
  exact shown

theorem overview_clusterNames :
    (overview policies clusters).clusterVertices.map (·.name) =
      clusters.map (·.name) ++ mentions (clusters.map (·.name)) policies := by
  have names := congrArg (List.map (·.2.1)) (overview_clusters_shown policies clusters)
  rw [List.map_append, List.map_map, List.map_map, List.map_map] at names
  exact names.trans (congrArg _ (List.map_id _))

end Overview

/-- What the overview of policies and registered clusters consists of, where `others` are not registered. -/
structure Surveys (policies : List Policy) (clusters : List Cluster) (others : List String) (t : Topology) : Prop where
  shown : t.clusterVertices.map (fun v => (v.id, v.name, v.status)) =
    clusters.map (fun cluster =>
      (clusterId cluster.name, cluster.name, if cluster.ready then "ready" else "not-ready")) ++
    others.map fun name => (clusterId name, name, "unknown")
  distinct : (t.clusterVertices.map (·.name)).Nodup
  exact : ∀ name, name ∈ t.clusterVertices.map (·.name) ↔
    name ∈ clusters.map (·.name) ∨ ∃ policy ∈ policies, name ∈ policy.placement.clusterNames
  ordered : others.Pairwise fun a b => (listedNames policies).idxOf a < (listedNames policies).idxOf b
  policyVertices : t.policyVertices.map Vertex.unplaced = policies.map unplacedPolicy
  edges : t.schedules = policies.flatMap fun policy => policy.placement.clusterNames.map (schedule policy)
  unpropagated : t.propagations = []
  closed : t.Closed
  summary : ∃ front last, t.vertices = front ++ [last] ∧ (∀ v ∈ front, v.kind = .policy ∨ v.kind = .cluster) ∧
    last.kind = .summary ∧
    last.properties = [("totalClusters", .nat clusters.length), ("totalPolicies", .nat policies.length)]

/-- The overview has every registered cluster with its status, then every other cluster that a policy lists in the
order of first mention, one vertex for each; a vertex for each policy, an edge for each cluster that it lists, no edge
that leads to or from nothing, and the summary last. -/
theorem overview_surveys_everything (policies : List Policy) (clusters : List Cluster)
    (distinct : (clusters.map (·.name)).Nodup) :
    ∃ others, Surveys policies clusters others (overview policies clusters) := by
  refine ⟨mentions (clusters.map (·.name)) policies, ?_⟩
  constructor
  case shown => exact overview_clusters_shown policies clusters
  case distinct =>
    rw [overview_clusterNames]
    exact append_mentions_nodup distinct policies
  case exact =>
    intro name
    rw [overview_clusterNames]
    exact mem_append_mentions
  case ordered => exact mentions_ordered _ _
  case policyVertices => exact overview_policyVertices policies clusters
  case edges => exact overview_schedules policies clusters
  case unpropagated => exact overview_propagations policies clusters
  case closed => exact overview_closed
  case summary =>
    refine ⟨_, _, rfl, fun v drawn => ?_, rfl, rfl⟩
    have unplaced := List.mem_map_of_mem (f := Vertex.unplaced) drawn
    rw [List.map_append, registeredVertices_unplaced, rows_unplaced] at unplaced
    rcases List.mem_append.1 unplaced with registered | listed
    · obtain ⟨cluster, -, same⟩ := List.mem_map.1 registered
      exact .inr (congrArg (·.kind) same).symm
    · have kind : v.unplaced.kind = .policy ∨ v.unplaced.kind = .cluster := inTurn_kinds (fun _ => rfl) listed
      exact kind

def listing (space : Option String) (name : String) (clusters : List String) : Policy :=
  ⟨name, space, [⟨"", "Deployment", "", ""⟩], ⟨some clusters, none, none⟩⟩

/-- Two policies list clusters that are registered or not, some of them twice. -/
theorem overview_surveys_everything_partly_registered :
    let policies := [listing (some "team") "web" ["west", "east", "west"], listing none "all" ["north", "west", "far"]]
    let clusters : List Cluster := [⟨"north", .empty, false, "v1.30.0", [], .none, ⟨0, 0⟩⟩,
      ⟨"east", .empty, true, "v1.31.0", [], .none, ⟨0, 0⟩⟩]
    (clusters.map (·.name)).Nodup ∧ (∃ others, Surveys policies clusters others (overview policies clusters)) ∧
      (overview policies clusters).clusterVertices.map (fun v => (v.name, v.status)) =
        [("north", "not-ready"), ("east", "ready"), ("west", "unknown"), ("far", "unknown")] := by
  intro policies clusters
  have distinct : (clusters.map (·.name)).Nodup := by decide
  refine ⟨distinct, overview_surveys_everything policies clusters distinct, ?_⟩
  decide +kernel

end ReplicaAtlas.Topology
