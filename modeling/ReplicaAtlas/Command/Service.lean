import ReplicaAtlas.Atlas.Api
import ReplicaAtlas.Http.Address
import ReplicaAtlas.Http.Arrival
import ReplicaAtlas.Json.Printer
import ReplicaAtlas.Member.Endpoint
import Std.Async

/-!
The service on the network. A connection carries one request. Member clusters are asked before a view is
answered, each by a connection per listing, and only those that the view is about.
-/
namespace ReplicaAtlas.Service
open Std.Async

def socketAddress (a : Http.Address) : Std.Net.SocketAddress :=
  match a.host with
  | .bytes b c d e => .v4 ⟨.ofParts b c d e, a.number⟩
  | .groups values => .v6 ⟨⟨Vector.ofFn fun i => values.getD i.val 0⟩, a.number⟩

def isAssigned (host : Http.Host) : IO Bool := do
  try
    Async.block do
      let server ← TCP.Socket.Server.mk
      server.bind (socketAddress ⟨host, 0⟩)
    return true
  catch _ => return false

def addressesOf (address : String) : Async (List Std.Net.SocketAddress) := do
  let parts := address.splitOn ":"
  let number := (Numeral.bounded? 16 (parts.getLast?.getD "").toList).getD 0
  let found ← DNS.getAddrInfo (":".intercalate parts.dropLast) (toString number)
  return found.toList.map fun
    | .v4 host => .v4 ⟨host, number.toUInt16⟩
    | .v6 host => .v6 ⟨host, number.toUInt16⟩

partial def receiveReply (client : TCP.Socket.Client) (bytes : List UInt8) : Async (List UInt8) := do
  if Http.Reply.isFinished bytes then return bytes
  match ← client.recv? 65536 with
  | none => return bytes
  | some more => receiveReply client (bytes ++ more.toList)

def exchange (address : String) (request : Http.Request) : Async Server := do
  let client ← TCP.Socket.Client.mk
  let reached ← try
      match ← addressesOf address with
      | [] => pure (some "no address")
      | first :: _ =>
        client.connect first
        pure none
    catch fault => pure (some (toString fault))
  match reached with
  | some reason => return .absent reason
  | none =>
    try
      client.send request.render.toUTF8
      let bytes ← receiveReply client []
      return .answering fun _ => bytes
    catch _ => return .answering fun _ => []

def ask (timeout : Duration) (e : ClusterEndpoint) (path : String) : Async (Duration × Server) := do
  match e.request? path with
  | none => return (⟨0⟩, .answering fun _ => [])
  | some request =>
    let start ← IO.monoMsNow
    let late : Server := .absent "no answer in time"
    let server ← Async.race (some <$> exchange e.address request) do
      sleep (.ofNat timeout.milliseconds)
      return none
    match server with
    | some server => return (⟨(← IO.monoMsNow) - start⟩, server)
    | none => return (⟨timeout.milliseconds + 1⟩, late)

def askMember (survey : Survey) (e : ClusterEndpoint) : Async Member := do
  let (delay, server) ← ask survey.options.timeout e e.nodesPath
  let nodes : Timed (List Node) := ⟨delay, e.items Node.layout e.nodesPath server⟩
  let names := if survey.potential then [] else (nodes.answer.toOption.getD []).map (·.name)
  let pods ← names.mapM fun name => do
    let (delay, server) ← ask survey.options.timeout e (e.podsPath name)
    return (name, (⟨delay, e.items Pod.layout (e.podsPath name) server⟩ : Timed (List Pod)))
  let known : Table (Timed (List Pod)) := .ofList pods
  return { nodes := nodes, pods := fun name => (known.get? name).getD (.now (.ok [])) }

def withMembers (atlas : Atlas) (endpoints : List ClusterEndpoint) (w : Workload) : Async Atlas := do
  match atlas.viewDraft w with
  | .error _ => return atlas
  | .ok draft =>
    let survey : Survey := ⟨atlas.options, w, draft.potential⟩
    let asked := endpoints.filter fun e => draft.clusters.contains e.name
    let tasks ← asked.mapM fun e => async (askMember survey e)
    let members ← tasks.mapM (await ·)
    return { atlas with members := .ofList ((asked.map (·.name)).zip members) }

partial def receiveRequest (client : TCP.Socket.Client) (bytes : List UInt8) : Async Http.Arrival := do
  match Http.Arrival.ofBytes bytes with
  | .unfinished =>
    match ← client.recv? 65536 with
    | none => return .malformed
    | some more => receiveRequest client (bytes ++ more.toList)
  | arrival => return arrival

def answer (atlas : Atlas) (endpoints : List ClusterEndpoint) (request : Http.Request) (body : String) :
    Async Atlas.ApiAnswer := do
  let contentType := (request.headers.find? (·.1 == "content-type")).map (·.2)
  let asked : Atlas.ApiRequest := ⟨request.method, request.target, contentType, body⟩
  match Atlas.viewed? asked with
  | some w => return (← withMembers atlas endpoints w).answer asked
  | none => return atlas.answer asked

def attend (atlas : Atlas) (endpoints : List ClusterEndpoint) (client : TCP.Socket.Client) : Async Unit := do
  let answer ← match ← receiveRequest client [] with
    | .complete request body =>
      match Text.Utf8.decode? body with
      | some body => answer atlas endpoints request body
      | none => pure (.refusal .malformed)
    | _ => pure (.refusal .malformed)
  let bytes := Http.Reply.write answer.status ((answer.body.map (·.render)).getD "")
  client.send bytes.toByteArray
  client.shutdown

partial def attendAll (atlas : Atlas) (endpoints : List ClusterEndpoint) (server : TCP.Socket.Server)
    (interrupt : Signal.Waiter) : Async Unit := do
  let next ← Selectable.one #[
    .case server.acceptSelector fun client => return some client,
    .case interrupt.selector fun _ => return none]
  match next with
  | none => return
  | some client =>
    background (do try attend atlas endpoints client catch _ => return)
    attendAll atlas endpoints server interrupt

def run (address : Http.Address) (atlas : Atlas) (endpoints : List ClusterEndpoint) : IO Unit :=
  Async.block do
    let server ← TCP.Socket.Server.mk
    server.bind (socketAddress address)
    server.listen 128
    let interrupt ← Signal.Waiter.mk .sigint false
    attendAll atlas endpoints server interrupt

end ReplicaAtlas.Service
