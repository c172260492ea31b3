import ReplicaAtlas.Store

/-!
What a store is asked to change, one operation after the other. The four tables are shelves of records: a
record is put on a shelf, or a key is deleted from one, and a snapshot puts its records on all of them.
-/
namespace ReplicaAtlas

inductive Shelf where
  | bindings
  | policies (kind : PolicyKind)
  | clusters
  deriving DecidableEq, Repr

abbrev Shelf.Record : Shelf → Type
  | .bindings => Binding
  | .policies _ => Policy
  | .clusters => Cluster

inductive StoreOperation where
  | put (shelf : Shelf) (record : shelf.Record)
  | importSnapshot (snapshot : Snapshot)
  | delete (shelf : Shelf) (key : String)

inductive StoreAnswer where
  | stored
  | imported (size : SnapshotSize)
  | deleted (existed : Bool)
  deriving DecidableEq, Repr

def Snapshot.records (s : Snapshot) : (shelf : Shelf) → List shelf.Record
  | .bindings => s.bindings
  | .policies kind => s.policies kind
  | .clusters => s.clusters

namespace Store

def table (s : Store) : (shelf : Shelf) → Table shelf.Record
  | .bindings => s.bindings
  | .policies kind => s.policies kind
  | .clusters => s.clusters

def put (s : Store) : (shelf : Shelf) → shelf.Record → Store
  | .bindings, b => s.putBinding b
  | .policies kind, policy => s.putPolicy kind policy
  | .clusters, c => s.putCluster c

def delete (s : Store) (shelf : Shelf) (key : String) : Store :=
  match shelf with
  | .bindings => s.eraseBinding key
  | .policies kind => s.erasePolicy kind key
  | .clusters => s.eraseCluster key

def perform (s : Store) : StoreOperation → Store × StoreAnswer
  | .put shelf record => (s.put shelf record, .stored)
  | .importSnapshot snapshot => (s.importSnapshot snapshot, .imported snapshot.size)
  | .delete shelf key => (s.delete shelf key, .deleted ((s.table shelf).contains key))

def run (operations : List StoreOperation) : Store :=
  operations.foldl (fun s operation => (s.perform operation).1) .empty

end Store

end ReplicaAtlas
