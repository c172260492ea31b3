import ReplicaAtlas.Placement.Rule
import ReplicaAtlas.Workload

/-!
Policies: which workloads they govern and where they place them. A policy without a namespace is cluster
scoped and governs workloads of every namespace.
-/
namespace ReplicaAtlas

inductive PolicyKind where
  | propagation
  | override
  deriving DecidableEq, Repr

def PolicyKind.named? (name : String) : Option PolicyKind :=
  if name = "propagation" then some .propagation
  else if name = "override" then some .override
  else none

/-- Picks workloads; an empty field picks every value of it. -/
structure WorkloadSelector where
  apiVersion : String
  kind : String
  space : String
  name : String
  deriving DecidableEq, Repr

structure Policy where
  name : String
  space : Option String
  selectors : List WorkloadSelector
  placement : PlacementRule

namespace WorkloadSelector

def admits (wanted actual : String) : Bool := wanted.isEmpty || wanted == actual

def selects (selector : WorkloadSelector) (w : Workload) : Bool :=
  admits selector.apiVersion w.apiVersion && admits selector.kind w.kind &&
    admits selector.space w.space && admits selector.name w.name

def layout : Layout WorkloadSelector where
  blank := ⟨"", "", "", ""⟩
  fields := [
    .defaulted "apiVersion" Decoder.text fun v s => { s with apiVersion := v },
    .defaulted "kind" Decoder.text fun v s => { s with kind := v },
    .defaulted "namespace" Decoder.text fun v s => { s with space := v },
    .defaulted "name" Decoder.text fun v s => { s with name := v }]

def toJson (s : WorkloadSelector) : Json := .object [
  ("apiVersion", .text s.apiVersion), ("kind", .text s.kind), ("namespace", .text s.space),
  ("name", .text s.name)]

end WorkloadSelector

namespace Policy

def isClusterScoped (policy : Policy) : Bool := policy.space.isNone

def spaceText (policy : Policy) : String := policy.space.getD ""

def tableKey (policy : Policy) : String := policy.spaceText ++ "/" ++ policy.name

def normalized (policy : Policy) : Policy := { policy with space := policy.space.filter (!·.isEmpty) }

def governs (policy : Policy) (w : Workload) : Bool := policy.selectors.any (·.selects w)

def layout : Layout Policy where
  blank := ⟨"", none, [], .unrestricted⟩
  fields := [
    .needed "name" Decoder.text fun v p => { p with name := v },
    .defaulted "namespace" (Decoder.optional Decoder.text) fun v p => { p with space := v },
    .defaulted "resourceSelectors" (Decoder.list WorkloadSelector.layout.decode)
      fun v p => { p with selectors := v },
    .defaulted "placement" PlacementRule.layout.decode fun v p => { p with placement := v }]

def toJson (p : Policy) : Json := .object [
  ("name", .text p.name), ("namespace", Json.option .text p.space),
  ("resourceSelectors", Json.list WorkloadSelector.toJson p.selectors),
  ("placement", p.placement.toJson)]

structure Brief where
  name : String
  space : String
  clusterScoped : Bool
  placement : PlacementRule

def brief (policy : Policy) : Brief :=
  ⟨policy.name, policy.spaceText, policy.isClusterScoped, policy.placement⟩

def Brief.toJson (b : Brief) : Json := .object [
  ("name", .text b.name), ("namespace", .text b.space), ("clusterScoped", .bool b.clusterScoped),
  ("placement", b.placement.toJson)]

end Policy

end ReplicaAtlas
