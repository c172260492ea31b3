import ReplicaAtlas.Cluster

/-!
Member clusters as a dashboard shows them: where they stand, how busy they are and what they can do, read
off their labels and capacity.
-/
namespace ReplicaAtlas

inductive LoadLevel where
  | low
  | medium
  | high
  deriving DecidableEq, Repr

structure ClusterView where
  cluster : Cluster
  region : String
  zone : String
  load : LoadLevel
  capabilities : List String

namespace LoadLevel

def ofPercentages (cpu memory : Float) : LoadLevel :=
  let load := (cpu + memory) / 2.0
  if load < 30.0 then .low else if load < 70.0 then .medium else .high

def name : LoadLevel → String
  | .low => "low"
  | .medium => "medium"
  | .high => "high"

end LoadLevel

namespace Cluster

def firstLabel (cluster : Cluster) (names : List String) : String :=
  (names.findSome? cluster.labels.get?).getD "unknown"

def region (cluster : Cluster) : String := cluster.firstLabel ["region", "cluster.karmada.io/region"]

def zone (cluster : Cluster) : String := cluster.firstLabel ["zone", "cluster.karmada.io/zone"]

def capabilities (cluster : Cluster) : List String :=
  let found := ["gpu", "ssd-storage", "high-memory"].filter cluster.labels.contains
  if found.isEmpty then ["basic-compute"] else found

def view (cluster : Cluster) : ClusterView where
  cluster := cluster
  region := cluster.region
  zone := cluster.zone
  load := .ofPercentages cluster.resources.cpuFraction cluster.resources.memoryFraction
  capabilities := cluster.capabilities

end Cluster

def ClusterView.toJson (v : ClusterView) : Json :=
  let c := v.cluster
  .object [
    ("name", .text c.name), ("ready", .bool c.ready), ("kubernetesVersion", .text c.version),
    ("region", .text v.region), ("zone", .text v.zone), ("loadLevel", .text v.load.name),
    ("capabilities", .texts v.capabilities), ("taints", Json.list Taint.toJson c.taints),
    ("resources", .object [
      ("cpuCapacity", .wide c.resources.cpuCapacity),
      ("cpuAllocatedPercent", .float c.resources.cpuFraction),
      ("memoryCapacity", .wide c.resources.memoryCapacity),
      ("memoryAllocatedPercent", .float c.resources.memoryFraction),
      ("podCapacity", .wide c.resources.podCapacity), ("podsAllocated", .wide c.resources.allocatedPods)]),
    ("nodes", c.nodes.toJson)]

end ReplicaAtlas
