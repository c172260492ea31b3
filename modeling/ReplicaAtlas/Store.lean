import ReplicaAtlas.Snapshot

/-!
The store of published records: four tables by key, where the last write to a key counts. A binding or a
policy stands under its namespace and its name with a slash between them, a cluster under its name. A policy
whose namespace is empty is stored without one, so the keys of cluster-scoped policies start with a slash.
Records are written as text, so a record is found as that text is read.
-/
namespace ReplicaAtlas

structure Store where
  bindings : Table Binding
  propagation : Table Policy
  overrides : Table Policy
  clusters : Table Cluster

inductive StoreFaultKind where
  | opening
  | transaction
  | table
  | reading
  | writing
  | encoding
  | decoding
  | unavailable
  deriving DecidableEq, Repr

structure StoreFault where
  kind : StoreFaultKind
  detail : String
  deriving DecidableEq, Repr

namespace StoreFault

def opening : StoreFaultKind → String
  | .opening => "failed to open database: "
  | .transaction => "transaction error: "
  | .table => "table error: "
  | .reading => "read error: "
  | .writing => "write error: "
  | .encoding => "serialization error: "
  | .decoding => "deserialization error: "
  | .unavailable => "store unavailable: "

def message (fault : StoreFault) : String := opening fault.kind ++ fault.detail

end StoreFault

namespace Store

def empty : Store := ⟨.empty, .empty, .empty, .empty⟩

instance : EmptyCollection Store := ⟨empty⟩

def policies (s : Store) : PolicyKind → Table Policy
  | .propagation => s.propagation
  | .override => s.overrides

def updatePolicies (s : Store) (change : Table Policy → Table Policy) : PolicyKind → Store
  | .propagation => { s with propagation := change s.propagation }
  | .override => { s with overrides := change s.overrides }

def putBinding (s : Store) (b : Binding) : Store :=
  { s with bindings := s.bindings.insert b.tableKey b.recorded }

def putPolicy (s : Store) (kind : PolicyKind) (policy : Policy) : Store :=
  s.updatePolicies (·.insert policy.normalized.tableKey policy.normalized) kind

def putCluster (s : Store) (c : Cluster) : Store :=
  { s with clusters := s.clusters.insert c.name c.recorded }

def eraseBinding (s : Store) (key : String) : Store := { s with bindings := s.bindings.erase key }

def erasePolicy (s : Store) (kind : PolicyKind) (key : String) : Store := s.updatePolicies (·.erase key) kind

def eraseCluster (s : Store) (name : String) : Store := { s with clusters := s.clusters.erase name }

def importClusters (clusters : Table Cluster) (imported : List Cluster) : Table Cluster :=
  imported.foldl (fun table c => table.insert c.name c.recorded) clusters

def importBindings (bindings : Table Binding) (imported : List Binding) : Table Binding :=
  imported.foldl (fun table b => table.insert b.tableKey b.recorded) bindings

def importPolicies (policies : Table Policy) (imported : List Policy) : Table Policy :=
  (imported.map Policy.normalized).foldl (fun table policy => table.insert policy.tableKey policy) policies

def importSnapshot (s : Store) (snapshot : Snapshot) : Store where
  clusters := importClusters s.clusters snapshot.clusters
  bindings := importBindings s.bindings snapshot.bindings
  propagation := importPolicies s.propagation snapshot.propagation
  overrides := importPolicies s.overrides snapshot.overrides

def isWithin (space key : String) : Bool := (space.toList ++ ['/']).isPrefixOf key.toList

def isClusterScopedKey (key : String) : Bool := isWithin "" key

def bindingsIn (s : Store) (space : String) : List Binding :=
  if space.isEmpty then s.bindings.values else s.bindings.valuesWhere (isWithin space)

/-- The policies of a namespace in key order; the empty namespace stands for all that there are. -/
def policiesIn (s : Store) (kind : PolicyKind) (space : String) : List Policy :=
  (s.policies kind).valuesWhere fun key =>
    if space.isEmpty then !isClusterScopedKey key else isWithin space key

def clusterPolicies (s : Store) (kind : PolicyKind) : List Policy :=
  (s.policies kind).valuesWhere isClusterScopedKey

def clusterList (s : Store) : List Cluster := s.clusters.values

def cluster? (s : Store) (name : String) : Option Cluster := s.clusters.get? name

end Store

structure SnapshotSize where
  clusters : Nat
  bindings : Nat
  propagation : Nat
  overrides : Nat
  deriving DecidableEq, Repr

def Snapshot.size (s : Snapshot) : SnapshotSize :=
  ⟨s.clusters.length, s.bindings.length, s.propagation.length, s.overrides.length⟩

end ReplicaAtlas
