import ReplicaAtlas.Http.Framing
import ReplicaAtlas.Text.Blank

/-!
Requests as a server reads them off the bytes that have arrived on a connection so far. Nothing is read of
a request before its headers are complete, and it is not answered before its body is.
-/
namespace ReplicaAtlas.Http
open Framing

inductive Arrival where
  | unfinished
  | malformed
  | complete (request : Request) (body : List UInt8)
  deriving DecidableEq, Repr

namespace Arrival

def requestLine? (cs : List Char) : Option (String × Target) := do
  let method := cs.takeWhile (· != ' ')
  let rest := cs.drop (method.length + 1)
  let target := rest.takeWhile (· != ' ')
  let name := String.ofList method
  let version := rest.drop (target.length + 1)
  if isToken name && (version = "HTTP/1.1".toList || version = "HTTP/1.0".toList) then
    return (name, ← Target.parse? (String.ofList target))
  else none

def endsHead : List UInt8 → Bool
  | 10 :: 10 :: _ => true
  | 10 :: 13 :: 10 :: _ => true
  | _ :: rest => endsHead rest
  | [] => false

def head? (bytes : List UInt8) : Option (Request × List UInt8) := do
  let (first, rest) ← line? bytes
  let (method, target) ← requestLine? first
  let (headers, rest) ← headers? headerLimit rest
  return (⟨method, target, headers⟩, rest)

def withBody (request : Request) (bytes : List UInt8) : Arrival :=
  let lengths := named "content-length" request.headers
  if lastCoding (named "transfer-encoding" request.headers) = "chunked" then
    match chunks? bytes with
    | some body => .complete request body
    | none => .unfinished
  else match lengths? lengths with
    | some [] => .complete request []
    | some (n :: more) =>
      if !more.all (· = n) then .malformed
      else if bytes.length < n then .unfinished
      else .complete request (bytes.take n)
    | none => .malformed

def ofBytes (bytes : List UInt8) : Arrival :=
  let bytes := dropEmptyLines bytes
  if !endsHead bytes then .unfinished
  else match head? bytes with
    | some (request, rest) => withBody request rest
    | none => .malformed

end Arrival

end ReplicaAtlas.Http
