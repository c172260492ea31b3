import ReplicaAtlas.Json.Decode

/-!
Workloads, as policies, bindings and pods refer to them. The kind of a workload is an open set of names;
the common kinds are also written in other cases of letters and in the plural.
-/
namespace ReplicaAtlas

/-- The usual spelling of a common kind in any case of ASCII letters; any other name stays as it is. -/
def canonicalKind (name : String) : String :=
  let lower := String.ofList (name.toList.map Char.toLower)
  if lower = "deployment" || lower = "deployments" then "Deployment"
  else if lower = "statefulset" || lower = "statefulsets" then "StatefulSet"
  else if lower = "daemonset" || lower = "daemonsets" then "DaemonSet"
  else if lower = "replicaset" || lower = "replicasets" then "ReplicaSet"
  else if lower = "job" || lower = "jobs" then "Job"
  else if lower = "cronjob" || lower = "cronjobs" then "CronJob"
  else if lower = "service" || lower = "services" then "Service"
  else if lower = "pod" || lower = "pods" then "Pod"
  else name

def intermediateKind? (kind : String) : Option String :=
  if kind = "Deployment" then some "ReplicaSet"
  else if kind = "CronJob" then some "Job"
  else none

def defaultApiVersion (kind : String) : String :=
  if kind = "Deployment" || kind = "StatefulSet" || kind = "DaemonSet" || kind = "ReplicaSet" then "apps/v1"
  else if kind = "Job" || kind = "CronJob" then "batch/v1"
  else "v1"

/-- A workload by its namespace, name and kind. The version plays no part in telling workloads apart. -/
structure Workload where
  space : String
  name : String
  kind : String
  apiVersion : String
  deriving DecidableEq, Repr

namespace Workload

def named (space name kind : String) : Workload :=
  let kind := canonicalKind kind
  ⟨space, name, kind, defaultApiVersion kind⟩

def isObject (w : Workload) (kind space name : String) : Bool :=
  w.kind == kind && w.space == space && w.name == name

def display (w : Workload) : String := w.kind ++ "/" ++ w.space ++ "/" ++ w.name

def layout : Layout Workload where
  blank := ⟨"", "", "", ""⟩
  fields := [
    .needed "namespace" Decoder.text fun v w => { w with space := v },
    .needed "name" Decoder.text fun v w => { w with name := v },
    .needed "kind" Decoder.text fun v w => { w with kind := v },
    .defaulted "apiVersion" Decoder.text fun v w => { w with apiVersion := v }]

def toJson (w : Workload) : Json := .object [
  ("namespace", .text w.space), ("name", .text w.name), ("kind", .text w.kind),
  ("apiVersion", .text w.apiVersion)]

end Workload

end ReplicaAtlas
