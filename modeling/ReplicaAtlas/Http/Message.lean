import ReplicaAtlas.Http.Target
import ReplicaAtlas.Number.Numeral

/-!
Requests, and what may stand in their methods and header values. A header value is any text without control
characters, tabs aside.
-/
namespace ReplicaAtlas.Http

def isTokenChar (c : Char) : Bool := c.isAlphanum || "!#$%&'*+-.^_\x60|~".toList.contains c

def isToken (text : String) : Bool := !text.isEmpty && text.toList.all isTokenChar

def isHeaderValue (text : String) : Bool :=
  text.toList.all fun c => c = '\t' || (0x20 ≤ c.toNat && c.toNat ≠ 0x7F)

structure Request where
  method : String
  target : Target
  headers : List (String × String)
  deriving DecidableEq, Repr

namespace Request

def get? (target : String) (headers : List (String × String)) : Option Request := do
  let target ← Target.parse? target
  if headers.all (isHeaderValue ·.2) then some ⟨"GET", target, headers⟩ else none

def line (r : Request) : String := r.method ++ " " ++ r.target.render ++ " HTTP/1.1"

def render (r : Request) : String :=
  r.line ++ "\r\n" ++ String.join (r.headers.map fun (name, value) => name ++ ": " ++ value ++ "\r\n") ++ "\r\n"

end Request

end ReplicaAtlas.Http
