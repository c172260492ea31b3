import ReplicaAtlas.Http.Message

/-!
Media types as they are written in the header of a message: a type and a subtype, and after a semicolon
parameters whose values are tokens or stand in quotes. Spaces are allowed before a parameter and after a
closing quote, and nowhere else.
-/
namespace ReplicaAtlas.Http

structure MediaType where
  type : String
  subtype : String
  /-- What follows the last plus sign of the subtype. -/
  ending : Option String
  deriving DecidableEq, Repr

namespace MediaType

def isQuotable (c : Char) : Bool := 0x20 ≤ c.toNat && c.toNat < 0x7F

inductive Place where
  | start
  | name
  | value
  | token
  | quote
  | quoted
  | closed

def parametersFrom : Place → List Char → Bool
  | .start, [] => true
  | .name, [] => false
  | .value, [] => true
  | .token, [] => true
  | .quote, [] => false
  | .quoted, [] => false
  | .closed, [] => true
  | .start, c :: rest => if c = ' ' then parametersFrom .start rest else isTokenChar c && parametersFrom .name rest
  | .name, c :: rest => if c = '=' then parametersFrom .value rest else isTokenChar c && parametersFrom .name rest
  | .value, c :: rest =>
    if c = '"' then parametersFrom .quote rest else isTokenChar c && parametersFrom .token rest
  | .token, c :: rest => if c = ';' then parametersFrom .start rest else isTokenChar c && parametersFrom .token rest
  | .quote, c :: rest => isQuotable c && parametersFrom .quoted rest
  | .quoted, c :: rest =>
    if c = '"' then parametersFrom .closed rest else isQuotable c && parametersFrom .quoted rest
  | .closed, c :: rest =>
    if c = ';' then parametersFrom .start rest else c = ' ' && parametersFrom .closed rest

def cutEnding (subtype : List Char) : List Char × Option (List Char) :=
  let ending := (subtype.reverse.takeWhile (· != '+')).reverse
  let length := subtype.length - ending.length
  if 2 ≤ length then (subtype.take (length - 1), some ending) else (subtype, none)

def lower (cs : List Char) : String := String.ofList (cs.map Char.toLower)

def parse? (text : String) : Option MediaType :=
  let cs := text.toList
  let type := cs.takeWhile isTokenChar
  match cs.drop type.length with
  | '/' :: rest =>
    let subtype := rest.takeWhile isTokenChar
    let parameters := match rest.drop subtype.length with
      | [] => true
      | c :: rest => c = ';' && parametersFrom .start rest
    if type.isEmpty || subtype.isEmpty || !parameters then none
    else
      let (first, ending) := cutEnding subtype
      some ⟨lower type, lower first, ending.map lower⟩
  | _ => none

def isJson (m : MediaType) : Bool := m.type = "application" && (m.subtype = "json" || m.ending = some "json")

end MediaType

end ReplicaAtlas.Http
