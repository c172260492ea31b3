import ReplicaAtlas.Atlas.Basic

/-!
The policies that govern a workload. Those of its namespace come before the cluster-scoped ones, and within
a scope they come in the order of their names.
-/
namespace ReplicaAtlas.Atlas

def governing? (atlas : Atlas) (kind : PolicyKind) (w : Workload) : Except QueryFault (Option Policy) := do
  let own ← atlas.policiesIn kind w.space
  match own.find? (·.governs w) with
  | some policy => return some policy
  | none =>
    let clusterScoped ← atlas.clusterPolicies kind
    return clusterScoped.find? (·.governs w)

structure GoverningPolicies where
  propagation : Option Policy
  overriding : Option Policy

def governingPolicies (atlas : Atlas) (w : Workload) : Except QueryFault GoverningPolicies := do
  let propagation ← atlas.governing? .propagation w
  let overriding ← atlas.governing? .override w
  return ⟨propagation, overriding⟩

def visiblePolicies (atlas : Atlas) (kind : PolicyKind) (space : String) : Except QueryFault (List Policy) := do
  let own ← atlas.policiesIn kind space
  let clusterScoped ← atlas.clusterPolicies kind
  return own ++ clusterScoped

/-- The policies of the namespace alone; the empty namespace stands for all policies, cluster-scoped last. -/
def policiesInScope (atlas : Atlas) (kind : PolicyKind) (space : String) : Except QueryFault (List Policy) := do
  let own ← atlas.policiesIn kind space
  if space.isEmpty then
    let clusterScoped ← atlas.clusterPolicies kind
    return own ++ clusterScoped
  else return own

end ReplicaAtlas.Atlas
