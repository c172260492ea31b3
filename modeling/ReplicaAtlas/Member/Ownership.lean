import ReplicaAtlas.Member.Object

/-!
Which pods belong to a workload. Pods do not name their workload, so three signs are tried in order of
confidence: an owner that is the workload, an owner of the intermediate kind whose name extends the
workload's, and an application label. The owner of the intermediate object is not looked up.
-/
namespace ReplicaAtlas

inductive Ownership where
  | owner
  | intermediateOwner
  | appLabel
  deriving DecidableEq, Repr

namespace Ownership

def appLabels : List String := ["app", "app.kubernetes.io/name"]

def extendsName (name longer : String) : Bool := (name.toList ++ ['-']).isPrefixOf longer.toList

def isOwnedBy (w : Workload) (owner : OwnerRef) : Bool := owner.kind == w.kind && owner.name == w.name

def isOwnedThrough (w : Workload) (kind : String) (owner : OwnerRef) : Bool :=
  owner.kind == kind && extendsName w.name owner.name

def isLabelled (w : Workload) (labels : Table String) : Bool :=
  appLabels.any fun label => labels.get? label == some w.name

def sign? (header : Metadata) (w : Workload) : Option Ownership :=
  if header.owners.any (isOwnedBy w) then some .owner
  else if (intermediateKind? w.kind).any fun kind => header.owners.any (isOwnedThrough w kind) then
    some .intermediateOwner
  else if isLabelled w header.labels then some .appLabel
  else none

end Ownership

def Pod.ownership? (pod : Pod) (w : Workload) (strict : Bool) : Option Ownership :=
  if strict && pod.header.space != w.space then none else Ownership.sign? pod.header w

end ReplicaAtlas
