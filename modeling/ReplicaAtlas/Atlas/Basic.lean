import ReplicaAtlas.Member.Survey
import ReplicaAtlas.Simulation
import ReplicaAtlas.Store

/-!
An atlas answers where workloads run. It reads policies, bindings and clusters from a store, each listing of
which may be out of reach, and asks the member clusters that it can connect to. A query that needs a listing
out of reach fails with the name of that source.
-/
namespace ReplicaAtlas

inductive Source where
  | policies
  | bindings
  | clusters
  deriving DecidableEq, Repr

def Source.name : Source → String
  | .policies => "policy"
  | .bindings => "binding"
  | .clusters => "cluster"

structure Outage where
  policies : Option StoreFault
  clusterPolicies : Option StoreFault
  bindings : Option StoreFault
  clusters : Option StoreFault
  deriving DecidableEq, Repr

def Outage.none : Outage := ⟨.none, .none, .none, .none⟩

structure QueryFault where
  source : Source
  fault : StoreFault
  deriving DecidableEq, Repr

def QueryFault.message (f : QueryFault) : String := s!"{f.source.name} store unreachable: {f.fault.message}"

structure Atlas where
  store : Store
  outage : Outage
  members : Table Member
  options : SurveyOptions
  limits : SimulationLimits

namespace Atlas

def empty : Atlas := ⟨.empty, .none, .empty, .default, .default⟩

def reach {α : Type} (source : Source) (fault : Option StoreFault) (listing : α) : Except QueryFault α :=
  match fault with
  | none => .ok listing
  | some fault => .error ⟨source, fault⟩

def policiesIn (atlas : Atlas) (kind : PolicyKind) (space : String) : Except QueryFault (List Policy) :=
  reach .policies atlas.outage.policies (atlas.store.policiesIn kind space)

def clusterPolicies (atlas : Atlas) (kind : PolicyKind) : Except QueryFault (List Policy) :=
  reach .policies atlas.outage.clusterPolicies (atlas.store.clusterPolicies kind)

def bindingsIn (atlas : Atlas) (space : String) : Except QueryFault (List Binding) :=
  reach .bindings atlas.outage.bindings (atlas.store.bindingsIn space)

def clusters (atlas : Atlas) : Except QueryFault (List Cluster) :=
  reach .clusters atlas.outage.clusters atlas.store.clusterList

end Atlas

end ReplicaAtlas
