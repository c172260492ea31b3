import ReplicaAtlas.Http.Framing
import ReplicaAtlas.Text.Utf8

/-!
Replies as a client reads them off the bytes of a connection that the server closes after them. A reply that
ends early is broken. Replies of an informational status are passed over, other than a change of protocols.
-/
namespace ReplicaAtlas.Http
open Numeral Framing

structure Reply where
  status : Nat
  /-- The body, if all of it arrived. -/
  body : Option (List UInt8)
  deriving DecidableEq, Repr

namespace Reply

def isSuccess (r : Reply) : Bool := 200 ≤ r.status && r.status < 300

def statusLine? (cs : List Char) : Option (Bool × Nat) :=
  match cs with
  | 'H' :: 'T' :: 'T' :: 'P' :: '/' :: '1' :: '.' :: v :: ' ' :: a :: b :: c :: rest =>
    let code := [a, b, c]
    let reason := match rest with
      | [] => true
      | s :: reason => s = ' ' && reason.all isFieldChar
    if (v = '0' || v = '1') && code.all isDigit && a != '0' && reason then some (v = '1', value code) else none
  | _ => none

inductive Extent where
  | length (n : Nat)
  | chunks
  | rest
  deriving DecidableEq, Repr

/-- Chunks take precedence over a length; lengths that differ or are no numbers are refused. -/
def extent? (isLatest : Bool) (status : Nat) (headers : List (String × String)) : Option Extent :=
  if status = 204 || status = 304 || status = 101 then some (.length 0)
  else
    let codings := named "transfer-encoding" headers
    let lengths := named "content-length" headers
    if !codings.isEmpty then
      if !isLatest then none
      else if lastCoding codings = "chunked" then some .chunks
      else some .rest
    else if lengths.isEmpty then some .rest
    else match lengths? lengths with
      | some (n :: more) => if more.all (· = n) then some (.length n) else none
      | _ => none

def body? : Extent → List UInt8 → Option (List UInt8)
  | .length n, bytes => if bytes.length < n then none else some (bytes.take n)
  | .chunks, bytes => chunks? bytes
  | .rest, bytes => some bytes

def headLimit : Nat := 417792

def headFrom : Nat → List UInt8 → Option (Nat × Extent × List UInt8)
  | 0, _ => none
  | replies + 1, bytes => do
    let (first, rest) ← line? (dropEmptyLines bytes)
    let (isLatest, status) ← statusLine? first
    let (headers, rest) ← headers? headerLimit rest
    if headLimit + rest.length < bytes.length then none
    if status < 200 && status != 101 then headFrom replies rest
    else return (status, ← extent? isLatest status headers, rest)

/-- The first reply that tells more than that the server goes on. -/
def head? (bytes : List UInt8) : Option (Nat × Extent × List UInt8) := headFrom (bytes.length + 1) bytes

def read? (bytes : List UInt8) : Option Reply :=
  (head? bytes).map fun (status, extent, rest) => ⟨status, body? extent rest⟩

def isFinished (bytes : List UInt8) : Bool :=
  match head? bytes with
  | some (_, .rest, _) => false
  | some (_, extent, rest) => (body? extent rest).isSome
  | none => false

def write (status : Nat) (body : String) : List UInt8 :=
  Text.Utf8.encode (s!"HTTP/1.1 {status} \r\ncontent-type: application/json\r\n" ++
    s!"content-length: {body.utf8ByteSize}\r\nconnection: close\r\n\r\n" ++ body).toList

end Reply

end ReplicaAtlas.Http
