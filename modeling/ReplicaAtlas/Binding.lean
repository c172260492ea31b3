import ReplicaAtlas.Json.Recorded
import ReplicaAtlas.Workload

/-!
Bindings: the record of where the replicas of a workload go, with what the clusters last told about them.
Numbers of replicas are 32-bit words, and sums of them stop at the largest word.
-/
namespace ReplicaAtlas

namespace Replicas

def most : Nat := 4294967295

def add (a b : UInt32) : UInt32 := (min (a.toNat + b.toNat) most).toUInt32

def sum (counts : List UInt32) : UInt32 := counts.foldl add 0

theorem toNat_add (a b : UInt32) : (add a b).toNat = min (a.toNat + b.toNat) most := by
  have : min (a.toNat + b.toNat) most < 4294967296 := by simp only [most]; omega
  simp only [add, UInt32.toNat_ofNat']
  exact Nat.mod_eq_of_lt this

theorem toNat_foldl_add (counts : List UInt32) (start : UInt32) :
    (counts.foldl add start).toNat = min (start.toNat + counts.foldr (fun c n => c.toNat + n) 0) most := by
  induction counts generalizing start with
  | nil =>
    have := start.toNat_lt
    simp only [List.foldl_nil, List.foldr_nil, most]
    omega
  | cons c rest ih =>
    simp only [List.foldl_cons, List.foldr_cons, ih, toNat_add, most]
    omega

end Replicas

structure WorkloadRef where
  apiVersion : String
  kind : String
  space : String
  name : String
  deriving DecidableEq, Repr

structure Target where
  cluster : String
  replicas : UInt32
  deriving DecidableEq, Repr

structure StatusReport where
  cluster : String
  payload : Option Json

inductive Truth where
  | yes
  | no
  | unknown
  deriving DecidableEq, Repr

structure Condition where
  type : String
  status : Truth
  reason : String
  message : String
  deriving DecidableEq, Repr

structure Binding where
  space : String
  name : String
  resource : WorkloadRef
  targets : List Target
  reports : List StatusReport
  conditions : List Condition

namespace WorkloadRef

def isFor (ref : WorkloadRef) (w : Workload) : Bool := w.isObject ref.kind ref.space ref.name

def layout : Layout WorkloadRef where
  blank := ⟨"", "", "", ""⟩
  fields := [
    .defaulted "apiVersion" Decoder.text fun v r => { r with apiVersion := v },
    .defaulted "kind" Decoder.text fun v r => { r with kind := v },
    .defaulted "namespace" Decoder.text fun v r => { r with space := v },
    .defaulted "name" Decoder.text fun v r => { r with name := v }]

def toJson (r : WorkloadRef) : Json := .object [
  ("apiVersion", .text r.apiVersion), ("kind", .text r.kind), ("namespace", .text r.space),
  ("name", .text r.name)]

end WorkloadRef

namespace Target

def layout : Layout Target where
  blank := ⟨"", 0⟩
  fields := [
    .needed "name" Decoder.text fun v t => { t with cluster := v },
    .defaulted "replicas" Decoder.word fun v t => { t with replicas := v }]

def toJson (t : Target) : Json := .object [("name", .text t.cluster), ("replicas", .word t.replicas)]

end Target

namespace StatusReport

def layout : Layout StatusReport where
  blank := ⟨"", none⟩
  fields := [
    .needed "clusterName" Decoder.text fun v r => { r with cluster := v },
    .defaulted "status" Decoder.optionalJson fun v r => { r with payload := v }]

def toJson (r : StatusReport) : Json := .object [
  ("clusterName", .text r.cluster), ("status", r.payload.getD .null)]

/-- Null is written for a payload that is missing, so a payload of null is read as none. -/
def recorded (r : StatusReport) : StatusReport where
  cluster := r.cluster
  payload :=
    match r.payload with
    | some .null => none
    | payload => payload.map (·.recorded)

end StatusReport

namespace Truth

def named? (name : String) : Option Truth :=
  if name = "True" then some .yes
  else if name = "False" then some .no
  else if name = "Unknown" then some .unknown
  else none

def name : Truth → String
  | .yes => "True"
  | .no => "False"
  | .unknown => "Unknown"

theorem named?_name (t : Truth) : named? t.name = some t := by cases t <;> decide

def decode : Decoder Truth := Decoder.choice named?

end Truth

namespace Condition

def layout : Layout Condition where
  blank := ⟨"", .unknown, "", ""⟩
  fields := [
    .needed "type" Decoder.text fun v c => { c with type := v },
    .needed "status" Truth.decode fun v c => { c with status := v },
    .defaulted "reason" Decoder.text fun v c => { c with reason := v },
    .defaulted "message" Decoder.text fun v c => { c with message := v }]

def toJson (c : Condition) : Json := .object [
  ("type", .text c.type), ("status", .text c.status.name), ("reason", .text c.reason),
  ("message", .text c.message)]

end Condition

namespace Binding

def tableKey (b : Binding) : String := b.space ++ "/" ++ b.name

def governs (b : Binding) (w : Workload) : Bool := b.resource.isFor w

def condition? (b : Binding) (type : String) : Option Condition := b.conditions.find? (·.type = type)

def report? (b : Binding) (cluster : String) : Option StatusReport :=
  b.reports.find? (·.cluster = cluster)

def payload? (b : Binding) (cluster : String) : Option Json := (b.report? cluster).bind (·.payload)

def plannedReplicas (b : Binding) : UInt32 := Replicas.sum (b.targets.map (·.replicas))

def layout : Layout Binding where
  blank := ⟨"", "", ⟨"", "", "", ""⟩, [], [], []⟩
  fields := [
    .needed "namespace" Decoder.text fun v b => { b with space := v },
    .needed "name" Decoder.text fun v b => { b with name := v },
    .needed "resource" WorkloadRef.layout.decode fun v b => { b with resource := v },
    .defaulted "clusters" (Decoder.list Target.layout.decode) fun v b => { b with targets := v },
    .defaulted "aggregatedStatus" (Decoder.list StatusReport.layout.decode)
      fun v b => { b with reports := v },
    .defaulted "conditions" (Decoder.list Condition.layout.decode) fun v b => { b with conditions := v }]

def toJson (b : Binding) : Json := .object [
  ("namespace", .text b.space), ("name", .text b.name), ("resource", b.resource.toJson),
  ("clusters", Json.list Target.toJson b.targets),
  ("aggregatedStatus", Json.list StatusReport.toJson b.reports),
  ("conditions", Json.list Condition.toJson b.conditions)]

def recorded (b : Binding) : Binding := { b with reports := b.reports.map (·.recorded) }

end Binding

end ReplicaAtlas
