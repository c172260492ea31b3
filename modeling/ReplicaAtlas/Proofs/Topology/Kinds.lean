import ReplicaAtlas.Proofs.Topology.Contents

/-!
The vertices and the edges of a graph by their kinds. Policies stand in the order in which they are listed, clusters in
the order in which they are registered or first mentioned, and every policy leads to the clusters in the order of its
list; around a workload the workload leads to each of its policies.
-/
namespace ReplicaAtlas

/-- Which kind a vertex has does not go by its place. -/
theorem Vertex.unplaced_filter (kind : VertexKind) (vertices : List Vertex) :
    (vertices.filter (·.kind = kind)).map unplaced = (vertices.map unplaced).filter (·.kind = kind) := by
  rw [List.filter_map]
  rfl

namespace Topology

def propagations (t : Topology) : List Edge := t.edges.filter (·.kind = .propagate)

def schedules (t : Topology) : List Edge := t.edges.filter (·.kind = .schedule)

def policyVertices (t : Topology) : List Vertex := t.vertices.filter (·.kind = .policy)

def clusterVertices (t : Topology) : List Vertex := t.vertices.filter (·.kind = .cluster)

def propagation (w : Workload) (policy : Policy) : Edge := ⟨resourceId w, policyId policy, .propagate⟩

theorem propagations_scheduleEdges (policy : Policy) : (scheduleEdges policy).filter (·.kind = .propagate) = [] := by
  simp [scheduleEdges]

theorem schedules_scheduleEdges (policy : Policy) :
    (scheduleEdges policy).filter (·.kind = .schedule) = scheduleEdges policy := by
  simp [scheduleEdges]

theorem propagations_policyEdges (w : Workload) (policy : Policy) :
    (policyEdges w policy).filter (·.kind = .propagate) = [propagation w policy] := by
  rw [policyEdges, List.filter_cons_of_pos (by simp), propagations_scheduleEdges]
  rfl

theorem schedules_policyEdges (w : Workload) (policy : Policy) :
    (policyEdges w policy).filter (·.kind = .schedule) = scheduleEdges policy := by
  rw [policyEdges, List.filter_cons_of_neg (by simp), schedules_scheduleEdges]

section Graphs
variable (w : Workload) (policies : List Policy) (clusters : List Cluster)

theorem ofWorkload_propagations :
    (ofWorkload w policies clusters).propagations = (policies.filter (·.governs w)).map (propagation w) := by
  simp only [propagations, ofWorkload, List.filter_flatMap, propagations_policyEdges]
  exact List.map_eq_flatMap.symm

theorem ofWorkload_schedules :
    (ofWorkload w policies clusters).schedules = (policies.filter (·.governs w)).flatMap scheduleEdges := by
  simp only [schedules, ofWorkload, List.filter_flatMap, schedules_policyEdges]

theorem overview_propagations : (overview policies clusters).propagations = [] := by
  simp [propagations, overview, List.filter_flatMap, propagations_scheduleEdges]

theorem overview_schedules : (overview policies clusters).schedules = policies.flatMap scheduleEdges := by
  simp only [schedules, overview, List.filter_flatMap, schedules_scheduleEdges]

theorem ofWorkload_policyVertices :
    (ofWorkload w policies clusters).policyVertices.map Vertex.unplaced =
      (policies.filter (·.governs w)).map unplacedPolicy := by
  rw [policyVertices, Vertex.unplaced_filter, ofWorkload_unplaced]
  exact inTurn_policies _ _ fun _ => rfl

private theorem registered_policies : (clusters.map registeredCluster).filter (·.kind = .policy) = [] := by
  simp [registeredCluster, unplacedCluster, clusterVertex]

private theorem registered_clusters :
    (clusters.map registeredCluster).filter (·.kind = .cluster) = clusters.map registeredCluster := by
  simp [registeredCluster, unplacedCluster, clusterVertex]

theorem overview_policyVertices :
    (overview policies clusters).policyVertices.map Vertex.unplaced = policies.map unplacedPolicy := by
  rw [policyVertices, Vertex.unplaced_filter, overview_unplaced, List.filter_append, List.filter_append,
    registered_policies, inTurn_policies _ _ fun _ => rfl]
  exact List.append_nil _

theorem overview_clusterVertices :
    (overview policies clusters).clusterVertices.map Vertex.unplaced =
      clusters.map registeredCluster ++ (mentions (clusters.map (·.name)) policies).map unregisteredCluster := by
  rw [clusterVertices, Vertex.unplaced_filter, overview_unplaced, List.filter_append, List.filter_append,
    registered_clusters, inTurn_clusters _ _ fun _ => rfl]
  exact List.append_nil _

end Graphs

end Topology

end ReplicaAtlas
