import ReplicaAtlas.Cluster
import ReplicaAtlas.Policy

/-!
Scheduling as a graph to be drawn. Around one workload it leads from the workload over its policies to the
clusters they list; as an overview it shows every cluster and every policy of a scope. Identifiers derive
from names alone, so the same records always give the same graph, and positions follow the order of listing.
-/
namespace ReplicaAtlas

inductive VertexKind where
  | resource
  | policy
  | cluster
  | summary
  deriving DecidableEq, Repr

inductive EdgeKind where
  | propagate
  | schedule
  deriving DecidableEq, Repr

structure Position where
  x : Nat
  y : Nat
  deriving DecidableEq, Repr

structure Vertex where
  id : String
  kind : VertexKind
  name : String
  space : String
  status : String
  properties : List (String × Json)
  position : Position

structure Edge where
  source : String
  target : String
  kind : EdgeKind
  deriving DecidableEq, Repr

structure Topology where
  vertices : List Vertex
  edges : List Edge

inductive TopologyScope where
  | resource (workload : Workload)
  | overview (space : String)
  deriving DecidableEq, Repr

/-- A single workload takes a namespace and a name; with less the scope is the namespace, if there is one. -/
def TopologyScope.ofQuery (kind space name : String) : TopologyScope :=
  if !space.isEmpty && !name.isEmpty then
    .resource (.named space name (if kind.isEmpty then "Deployment" else canonicalKind kind))
  else .overview space

namespace VertexKind

def name : VertexKind → String
  | .resource => "resource"
  | .policy => "policy"
  | .cluster => "cluster"
  | .summary => "summary"

end VertexKind

namespace EdgeKind

def name : EdgeKind → String
  | .propagate => "propagate"
  | .schedule => "schedule"

def label : EdgeKind → String
  | .propagate => "applies policy"
  | .schedule => "schedules to"

end EdgeKind

namespace Position

def toJson (p : Position) : Json := .object [("x", .float p.x.toFloat), ("y", .float p.y.toFloat)]

end Position

namespace Vertex

def toJson (v : Vertex) : Json := .object <|
  [("id", .text v.id), ("type", .text v.kind.name), ("name", .text v.name)] ++
  Json.optionalMember "namespace" .text (some v.space |>.filter (!·.isEmpty)) ++
  [("status", .text v.status), ("properties", .object v.properties), ("position", v.position.toJson)]

end Vertex

namespace Edge

def id (e : Edge) : String := "edge-" ++ e.source ++ "-" ++ e.target

def toJson (e : Edge) : Json := .object [
  ("id", .text e.id), ("source", .text e.source), ("target", .text e.target), ("type", .text e.kind.name),
  ("label", .text e.kind.label), ("status", .text "active")]

end Edge

namespace Topology

def resourceId (w : Workload) : String := "resource-" ++ w.space ++ "-" ++ w.name

def policyId (policy : Policy) : String :=
  match policy.space with
  | some space => "policy-" ++ space ++ "-" ++ policy.name
  | none => "policy-" ++ policy.name

def clusterId (name : String) : String := "cluster-" ++ name

def summaryId : String := "resources-summary"

def resourceVertex (w : Workload) : Vertex where
  id := resourceId w
  kind := .resource
  name := w.name
  space := w.space
  status := "ready"
  properties := [("apiVersion", .text w.apiVersion), ("kind", .text w.kind)]
  position := ⟨100, 100⟩

def policyVertex (policy : Policy) (position : Position) : Vertex where
  id := policyId policy
  kind := .policy
  name := policy.name
  space := policy.spaceText
  status := "ready"
  properties := [
    ("clusterScoped", .bool policy.isClusterScoped), ("resourceSelectors", .nat policy.selectors.length),
    ("targetClusters", .nat policy.placement.clusterNames.length)]
  position := position

def clusterStatus : Option Cluster → String
  | none => "unknown"
  | some c => if c.ready then "ready" else "not-ready"

def clusterProperties : Option Cluster → List (String × Json)
  | none => [("ready", .bool false)]
  | some c => [("kubernetesVersion", .text c.version), ("ready", .bool c.ready)]

def clusterVertex (name : String) (cluster : Option Cluster) (position : Position) : Vertex where
  id := clusterId name
  kind := .cluster
  name := name
  space := ""
  status := clusterStatus cluster
  properties := clusterProperties cluster
  position := position

def summaryVertex (policies clusters : Nat) : Vertex where
  id := summaryId
  kind := .summary
  name := "scheduling overview"
  space := ""
  status := "active"
  properties := [("totalClusters", .nat clusters), ("totalPolicies", .nat policies)]
  position := ⟨500, 50⟩

def firstMentions (seen : List String) (place : Nat) : List String → List (Nat × String)
  | [] => []
  | name :: rest =>
    if name ∈ seen then firstMentions seen (place + 1) rest
    else (place, name) :: firstMentions (name :: seen) (place + 1) rest

def scheduleEdges (policy : Policy) : List Edge :=
  policy.placement.clusterNames.map fun name => ⟨policyId policy, clusterId name, .schedule⟩

def named? (clusters : List Cluster) (name : String) : Option Cluster :=
  clusters.reverse.find? (·.name = name)

/-- The vertices of policies from a column on, each after those of the clusters that it mentions first. -/
def columns (clusters : List Cluster) (column : Nat) (seen : List String) : List Policy → List Vertex
  | [] => []
  | policy :: rest =>
    let x := 300 + 250 * column
    let fresh := firstMentions seen 0 policy.placement.clusterNames
    fresh.map (fun (place, name) => clusterVertex name (named? clusters name) ⟨x, 250 + 80 * place⟩) ++
      policyVertex policy ⟨x, 100⟩ :: columns clusters (column + 1) (seen ++ fresh.map (·.2)) rest

def policyEdges (w : Workload) (policy : Policy) : List Edge :=
  ⟨resourceId w, policyId policy, .propagate⟩ :: scheduleEdges policy

def ofWorkload (w : Workload) (policies : List Policy) (clusters : List Cluster) : Topology :=
  let governing := policies.filter (·.governs w)
  ⟨resourceVertex w :: columns clusters 0 [] governing, governing.flatMap (policyEdges w)⟩

def registeredVertices (row : Nat) : List Cluster → List Vertex
  | [] => []
  | cluster :: rest =>
    clusterVertex cluster.name (some cluster) ⟨100, 100 + 100 * row⟩ :: registeredVertices (row + 1) rest

def rows (row : Nat) (seen : List String) : List Policy → List Vertex
  | [] => []
  | policy :: rest =>
    let fresh := (firstMentions seen 0 policy.placement.clusterNames).map (·.2)
    (fresh.zipIdx seen.length).map (fun (name, place) => clusterVertex name none ⟨100, 100 + 100 * place⟩) ++
      policyVertex policy ⟨300, 100 + 120 * row⟩ :: rows (row + 1) (seen ++ fresh) rest

def overview (policies : List Policy) (clusters : List Cluster) : Topology :=
  ⟨registeredVertices 0 clusters ++ rows 0 (clusters.map (·.name)) policies ++
      [summaryVertex policies.length clusters.length],
    policies.flatMap scheduleEdges⟩

def toJson (t : Topology) : Json := .object [
  ("nodes", Json.list Vertex.toJson t.vertices), ("edges", Json.list Edge.toJson t.edges)]

end Topology

end ReplicaAtlas
