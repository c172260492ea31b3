import ReplicaAtlas.Json.Decode
import ReplicaAtlas.Member.Endpoint
import ReplicaAtlas.Toml.Printer
import ReplicaAtlas.Toml.Reader

/-!
The configuration: where to listen, where the store is, how member clusters are surveyed and how they are
reached. Every setting has a default, so an empty text is a configuration.
-/
namespace ReplicaAtlas

structure SurveySettings where
  timeout : String
  clusterConcurrency : Nat
  nodeConcurrency : Nat
  strict : Bool
  deriving DecidableEq, Repr

structure Config where
  listen : String
  storePath : String
  survey : SurveySettings
  replicaLimit : UInt32
  endpoints : List ClusterEndpoint
  deriving DecidableEq, Repr

inductive ConfigFault where
  | unparsable
  | invalidTimeout (text : String)
  deriving DecidableEq, Repr

def ConfigFault.message : ConfigFault → String
  | .unparsable => "failed to parse config"
  | .invalidTimeout text => s!"invalid duration for probe.timeout: {text}"

namespace SurveySettings

def default : SurveySettings := ⟨"5s", 8, 16, false⟩

def layout : Layout SurveySettings where
  blank := default
  fields := [
    .defaulted "timeout" Decoder.text fun v s => { s with timeout := v },
    .defaulted "cluster_concurrency" (Decoder.natural 64) fun v s => { s with clusterConcurrency := v },
    .defaulted "node_concurrency" (Decoder.natural 64) fun v s => { s with nodeConcurrency := v },
    .defaulted "strict_namespace" Decoder.bool fun v s => { s with strict := v }]

def toJson (s : SurveySettings) : Json := .object [
  ("timeout", .text s.timeout), ("cluster_concurrency", .nat s.clusterConcurrency),
  ("node_concurrency", .nat s.nodeConcurrency), ("strict_namespace", .bool s.strict)]

def duration (s : SurveySettings) : Except ConfigFault Duration :=
  match Duration.parse? s.timeout with
  | some duration => .ok duration
  | none => .error (.invalidTimeout s.timeout)

def options (s : SurveySettings) : Except ConfigFault SurveyOptions :=
  s.duration.map fun timeout => ⟨timeout, max s.clusterConcurrency 1, max s.nodeConcurrency 1, s.strict⟩

end SurveySettings

namespace Config

def default : Config := ⟨"0.0.0.0:8000", "/var/lib/fleetlens/fleetlens.redb", .default, 100, []⟩

def listenLayout : Layout String where
  blank := default.listen
  fields := [.defaulted "listen" Decoder.text fun v _ => v]

def storePathLayout : Layout String where
  blank := default.storePath
  fields := [.defaulted "path" Decoder.text fun v _ => v]

def replicaLimitLayout : Layout UInt32 where
  blank := default.replicaLimit
  fields := [.defaulted "max_replicas_per_cluster" Decoder.word fun v _ => v]

def layout : Layout Config where
  blank := default
  fields := [
    .defaulted "server" listenLayout.decode fun v c => { c with listen := v },
    .defaulted "state" storePathLayout.decode fun v c => { c with storePath := v },
    .defaulted "probe" SurveySettings.layout.decode fun v c => { c with survey := v },
    .defaulted "simulation" replicaLimitLayout.decode fun v c => { c with replicaLimit := v },
    .defaulted "clusters" (Decoder.list ClusterEndpoint.layout.decode) fun v c => { c with endpoints := v }]

def toJson (c : Config) : Json := .object [
  ("server", .object [("listen", .text c.listen)]), ("state", .object [("path", .text c.storePath)]),
  ("probe", c.survey.toJson),
  ("simulation", .object [("max_replicas_per_cluster", .word c.replicaLimit)]),
  ("clusters", Json.list ClusterEndpoint.toJson c.endpoints)]

/-- Read a configuration. A timeout that is no duration is refused here and not when it is first used. -/
def ofToml (text : String) : Except ConfigFault Config :=
  match Toml.parse? text with
  | none => .error .unparsable
  | some document =>
    match layout.decode document with
    | .error _ => .error .unparsable
    | .ok config => config.survey.duration.map fun _ => config

open Toml

def textLine (name text : String) : List Char := printAssignment name (printText text.toList)

def endpointLines (e : ClusterEndpoint) : List Char :=
  printLine [] ++ printElementHeader "clusters" ++ textLine "name" e.name ++ textLine "endpoint" e.address ++
    textLine "path_prefix" e.pathPrefix ++ (e.token.map (textLine "token")).getD []

def surveyLines (s : SurveySettings) : List Char :=
  textLine "timeout" s.timeout ++
    printAssignment "cluster_concurrency" (printNumber s.clusterConcurrency) ++
    printAssignment "node_concurrency" (printNumber s.nodeConcurrency) ++
    printAssignment "strict_namespace" (printTruth s.strict)

def render (c : Config) : String := String.ofList <|
  (if c.endpoints.isEmpty then printAssignment "clusters" ['[', ']'] ++ printLine [] else []) ++
  printHeader "server" ++ textLine "listen" c.listen ++ printLine [] ++
  printHeader "state" ++ textLine "path" c.storePath ++ printLine [] ++
  printHeader "probe" ++ surveyLines c.survey ++ printLine [] ++
  printHeader "simulation" ++
    printAssignment "max_replicas_per_cluster" (printNumber c.replicaLimit.toNat) ++
  c.endpoints.flatMap endpointLines

def toToml? (c : Config) : Option String :=
  if c.survey.clusterConcurrency < Nat.pow 2 63 && c.survey.nodeConcurrency < Nat.pow 2 63 then some c.render else none

end Config

end ReplicaAtlas
