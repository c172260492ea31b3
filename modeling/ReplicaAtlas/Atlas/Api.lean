import ReplicaAtlas.Atlas.Queries
import ReplicaAtlas.Http.MediaType
import ReplicaAtlas.Http.Message
import ReplicaAtlas.Http.Query
import ReplicaAtlas.Json.Reader

/-!
The queries of an atlas as routes of a web service. An answer tells whether the query succeeded, with the
data or with the error. Requests that no query can be read from are answered with a status alone.
-/
namespace ReplicaAtlas.Atlas
open Http Text

/-- What a path asks for. Parts of the path that name something are still percent-encoded. -/
inductive Route where
  | workload (space kind name : List Char)
  | simulatePlacement
  | simulateStrategy
  | topology
  | distribution
  | clusterViews
  | health
  deriving DecidableEq, Repr

structure ApiRequest where
  method : String
  target : Http.Target
  contentType : Option String
  body : String
  deriving DecidableEq, Repr

inductive ApiRefusal where
  | notFound
  | wrongMethod
  | malformed
  | tooLarge
  | wrongMediaType
  | mismatched
  deriving DecidableEq, Repr

structure ApiAnswer where
  status : Nat
  body : Option Json

namespace Route

def ofPath? (path : String) : Option Route :=
  match (splitAt '/' path.toList).map String.ofList with
  | ["", "healthz"] => some .health
  | "" :: "api" :: "v1" :: "scheduling" :: rest =>
    match rest with
    | ["simulate"] => some .simulatePlacement
    | ["visual", "simulate"] => some .simulateStrategy
    | ["tree"] => some .topology
    | ["overview"] => some .distribution
    | ["clusters", "resources"] => some .clusterViews
    | ["workloads", space, kind, name] =>
      if name.isEmpty then none else some (.workload space.toList kind.toList name.toList)
    | _ => none
  | _ => none

def takesBody : Route → Bool
  | .simulatePlacement => true
  | .simulateStrategy => true
  | _ => false

def allows (route : Route) (method : String) : Bool :=
  if route.takesBody then method = "POST" else method = "GET" || method = "HEAD"

end Route

def ApiRefusal.status : ApiRefusal → Nat
  | .notFound => 404
  | .wrongMethod => 405
  | .malformed => 400
  | .tooLarge => 413
  | .wrongMediaType => 415
  | .mismatched => 422

namespace ApiAnswer

def refusal (r : ApiRefusal) : ApiAnswer := ⟨r.status, none⟩

def data (value : Json) : ApiAnswer := ⟨200, some (.object [("success", .bool true), ("data", value)])⟩

def failure (f : QueryFault) : ApiAnswer :=
  ⟨503, some (.object [("success", .bool false), ("error", .text f.message)])⟩

def ofQuery {α : Type} (encode : α → Json) : Except QueryFault α → ApiAnswer
  | .ok a => data (encode a)
  | .error f => failure f

end ApiAnswer

def bodyLimit : Nat := 2097152

def hasJson (r : ApiRequest) : Bool :=
  ((r.contentType.filter (·.toList.all fun c => c = '\t' || (0x20 ≤ c.toNat && c.toNat < 0x7F))).bind
    MediaType.parse?).any (·.isJson)

def readBody {α : Type} (decoder : Decoder α) (r : ApiRequest) : Except ApiRefusal α :=
  if !hasJson r then .error .wrongMediaType
  else if bodyLimit < r.body.utf8ByteSize then .error .tooLarge
  else
    let reading := Json.read r.body
    match decoder.ofText (reading.document, reading.trailing) with
    | .ok a => .ok a
    | .error .malformed => .error .malformed
    | .error .mismatched => .error .mismatched

def readQuery (r : ApiRequest) (names : List String) : Except ApiRefusal (List String) :=
  match names.mapM (Query.parse (r.target.query.getD "")).field? with
  | some values => .ok values
  | none => .error .malformed

def readWorkload (space kind name : List Char) : Except ApiRefusal Workload :=
  match Percent.decodeText? space, Percent.decodeText? kind, Percent.decodeText? name with
  | some space, some kind, some name => .ok (.named space name kind)
  | _, _, _ => .error .malformed

def readScope (r : ApiRequest) : Except ApiRefusal TopologyScope := do
  match ← readQuery r ["resourceType", "namespace", "resourceName"] with
  | [kind, space, name] => return .ofQuery kind space name
  | _ => throw .malformed

def readSpace (r : ApiRequest) : Except ApiRefusal String := do
  return ((← readQuery r ["namespace"]).head?).getD ""

def viewed? (r : ApiRequest) : Option Workload :=
  match Route.ofPath? r.target.path with
  | some (.workload space kind name) => (readWorkload space kind name).toOption
  | _ => none

def handle (atlas : Atlas) (r : ApiRequest) : Route → Except ApiRefusal ApiAnswer
  | .workload space kind name => do
    let w ← readWorkload space kind name
    return .ofQuery WorkloadView.toJson (atlas.view w)
  | .simulatePlacement => do
    let request ← readBody PlacementRequest.layout.decode r
    return .ofQuery PlacementAnswer.toJson (atlas.simulatePlacement request)
  | .simulateStrategy => do
    let request ← readBody StrategyRequest.layout.decode r
    return .data (atlas.simulateStrategy request).toJson
  | .topology => do
    let scope ← readScope r
    return .ofQuery Topology.toJson (atlas.topology scope)
  | .distribution => do
    let space ← readSpace r
    return .ofQuery Distribution.toJson (atlas.distribution space)
  | .clusterViews => .ok (.ofQuery (Json.list ClusterView.toJson) atlas.clusterViews)
  | .health => .ok (.data (.text "ok"))

def answer (atlas : Atlas) (r : ApiRequest) : ApiAnswer :=
  match Route.ofPath? r.target.path with
  | none => .refusal .notFound
  | some route =>
    if !route.allows r.method then .refusal .wrongMethod
    else match atlas.handle r route with
      | .error refusal => .refusal refusal
      | .ok answer => if r.method = "HEAD" then { answer with body := none } else answer

end ReplicaAtlas.Atlas
