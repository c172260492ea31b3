import ReplicaAtlas.Binding
import ReplicaAtlas.Cluster
import ReplicaAtlas.Policy

/-!
Snapshots: everything a control plane has published, in one document.
-/
namespace ReplicaAtlas

structure Snapshot where
  clusters : List Cluster
  bindings : List Binding
  propagation : List Policy
  overrides : List Policy

namespace Snapshot

def empty : Snapshot := ⟨[], [], [], []⟩

def policies (s : Snapshot) : PolicyKind → List Policy
  | .propagation => s.propagation
  | .override => s.overrides

def layout : Layout Snapshot where
  blank := empty
  fields := [
    .defaulted "clusters" (Decoder.list Cluster.layout.decode) fun v s => { s with clusters := v },
    .defaulted "bindings" (Decoder.list Binding.layout.decode) fun v s => { s with bindings := v },
    .defaulted "propagationPolicies" (Decoder.list Policy.layout.decode)
      fun v s => { s with propagation := v },
    .defaulted "overridePolicies" (Decoder.list Policy.layout.decode) fun v s => { s with overrides := v }]

def toJson (s : Snapshot) : Json := .object [
  ("clusters", Json.list Cluster.toJson s.clusters), ("bindings", Json.list Binding.toJson s.bindings),
  ("propagationPolicies", Json.list Policy.toJson s.propagation),
  ("overridePolicies", Json.list Policy.toJson s.overrides)]

end Snapshot

end ReplicaAtlas
