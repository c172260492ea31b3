import ReplicaAtlas.Http.Reply
import ReplicaAtlas.Json.Reader
import ReplicaAtlas.Member.Survey
import ReplicaAtlas.Text.Percent

/-!
Member clusters over HTTP. Nodes and pods are listed by one request each, below the path of the cluster's
endpoint, and a reply counts if it has a status of success and holds a listing as JSON. Node names are
percent-encoded in the request for pods.
-/
namespace ReplicaAtlas
open Text

structure ClusterEndpoint where
  name : String
  address : String
  pathPrefix : String
  token : Option String
  deriving DecidableEq, Repr

/-- What a client meets at an address: nobody, or a server that answers with bytes and closes. -/
inductive Server where
  | absent (reason : String)
  | answering (respond : Http.Request → List UInt8)

namespace ClusterEndpoint

def layout : Layout ClusterEndpoint where
  blank := ⟨"", "", "", none⟩
  fields := [
    .needed "name" Decoder.text fun v e => { e with name := v },
    .needed "endpoint" Decoder.text fun v e => { e with address := v },
    .defaulted "path_prefix" Decoder.text fun v e => { e with pathPrefix := v },
    .defaulted "token" (Decoder.optional Decoder.text) fun v e => { e with token := v }]

def toJson (e : ClusterEndpoint) : Json := .object [
  ("name", .text e.name), ("endpoint", .text e.address), ("path_prefix", .text e.pathPrefix),
  ("token", Json.option .text e.token)]

def basePath (e : ClusterEndpoint) : List Char :=
  (e.pathPrefix.toList.reverse.dropWhile (· == '/')).reverse

def nodesPath (e : ClusterEndpoint) : String := String.ofList (e.basePath ++ "/api/v1/nodes".toList)

def podsPath (e : ClusterEndpoint) (node : String) : String :=
  String.ofList (e.basePath ++ "/api/v1/pods?fieldSelector=spec.nodeName%3D".toList ++ Percent.encode node)

def headers (e : ClusterEndpoint) : List (String × String) :=
  [("host", e.address), ("user-agent", "fleetlens-probe/0.1"), ("accept", "application/json")] ++
  (e.token.map fun token => ("authorization", "Bearer " ++ token)).toList

def request? (e : ClusterEndpoint) (path : String) : Option Http.Request := Http.Request.get? path e.headers

def sent? (e : ClusterEndpoint) (path : String) : Server → Option Http.Request
  | .absent _ => none
  | .answering _ => e.request? path

def pathOf (e : ClusterEndpoint) : Survey.Call → String
  | .nodes _ => e.nodesPath
  | .pods _ node => e.podsPath node

def received (path : String) (bytes : List UInt8) : Except MemberFault (List UInt8) :=
  match Http.Reply.read? bytes with
  | none => .error (.request path "malformed reply")
  | some reply =>
    if !reply.isSuccess then .error (.status path reply.status)
    else match reply.body with
      | none => .error (.request path "incomplete reply")
      | some bytes => .ok bytes

def body (e : ClusterEndpoint) (path : String) : Server → Except MemberFault (List UInt8)
  | .absent reason => .error (.connect e.address reason)
  | .answering respond =>
    match e.request? path with
    | none => .error (.request path "malformed request")
    | some request => received path (respond request)

def ofBytes {α : Type} (decoder : Decoder α) (bytes : List UInt8) : Option α := do
  let text ← Utf8.decode? bytes
  let reading := Json.read text
  (decoder.ofText (reading.document, reading.trailing)).toOption

def items {α : Type} (e : ClusterEndpoint) (item : Layout α) (path : String) (server : Server) :
    Except MemberFault (List α) := do
  let bytes ← e.body path server
  match ofBytes (listingLayout item).decode bytes with
  | some items => return items
  | none => throw (.decode path "no listing")

def member (e : ClusterEndpoint) (server : Server) : Member where
  nodes := .now (e.items Node.layout e.nodesPath server)
  pods node := .now (e.items Pod.layout (e.podsPath node) server)

end ClusterEndpoint

def Member.ofEndpoints (endpoints : List ClusterEndpoint) (server : ClusterEndpoint → Server) : Table Member :=
  .ofList (endpoints.map fun e => (e.name, e.member (server e)))

end ReplicaAtlas
