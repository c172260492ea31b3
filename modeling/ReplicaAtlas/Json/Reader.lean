import ReplicaAtlas.Json.Document
import ReplicaAtlas.Json.Token

/-!
Reading a JSON text into a document. The reader takes one token at a time and keeps the containers that
are still open; at the first token that cannot stand where it is, every open container ends in `broken`.
-/
namespace ReplicaAtlas.Json

inductive Place where
  | value
  | valueOrEnd
  | name
  | nameOrEnd
  | colon
  | commaOrEnd

/-- An open container with what stands in it so far, latest first. -/
inductive Open where
  | array (items : List Document)
  | object (members : List (Option String × Document)) (name : Option String)

def Open.add (value : Document) : Open → Open
  | .array items => .array (value :: items)
  | .object members name => .object ((name, value) :: members) none

def Open.close : Open → Document
  | .array items => .array items.reverse true
  | .object members _ => .object members.reverse

structure Reading where
  document : Document
  trailing : Bool

def depthLimit : Nat := 127

def breakOff (stack : List Open) : Reading :=
  ⟨stack.foldl (fun inner container => (container.add inner).close) .broken, false⟩

def closed (container : Open) (around : List Open) : Document :=
  if (around.drop (depthLimit - 1)).isEmpty then container.close else .valueless

def assemble : List Token → Place → List Open → Reading
  | [], _, stack => breakOff stack
  | token :: rest, place, stack =>
    let finish (value : Document) (around : List Open) : Reading :=
      match around with
      | [] => ⟨value, !rest.isEmpty⟩
      | container :: outer => assemble rest .commaOrEnd (container.add value :: outer)
    let enter (container : Open) (next : Place) : Reading := assemble rest next (container :: stack)
    let atValue := match place with
      | .value => true
      | .valueOrEnd => true
      | _ => false
    let atEnd := match place with
      | .valueOrEnd => true
      | .nameOrEnd => true
      | .commaOrEnd => true
      | _ => false
    let atName := match place with
      | .name => true
      | .nameOrEnd => true
      | _ => false
    match token, stack with
    | .leftBrace, _ => if atValue then enter (.object [] none) .nameOrEnd else breakOff stack
    | .leftBracket, _ => if atValue then enter (.array []) .valueOrEnd else breakOff stack
    | .rightBrace, .object members name :: outer =>
      if atEnd then finish (closed (.object members name) outer) outer else breakOff stack
    | .rightBracket, .array items :: outer =>
      if atEnd then finish (closed (.array items) outer) outer else breakOff stack
    | .colon, _ =>
      match place with
      | .colon => assemble rest .value stack
      | _ => breakOff stack
    | .comma, .array _ :: _ =>
      match place with
      | .commaOrEnd => assemble rest .value stack
      | _ => breakOff stack
    | .comma, .object _ _ :: _ =>
      match place with
      | .commaOrEnd => assemble rest .name stack
      | _ => breakOff stack
    | .text s, .object members _ :: outer =>
      if atName then assemble rest .colon (.object members (some s) :: outer)
      else if atValue then finish (.text s) stack
      else breakOff stack
    | .unpairedText, .object members _ :: outer =>
      if atName then assemble rest .colon (.object members none :: outer)
      else if atValue then finish .valueless stack
      else breakOff stack
    | .text s, _ => if atValue then finish (.text s) stack else breakOff stack
    | .unpairedText, _ => if atValue then finish .valueless stack else breakOff stack
    | .null, _ => if atValue then finish .null stack else breakOff stack
    | .bool b, _ => if atValue then finish (.bool b) stack else breakOff stack
    | .number n, _ => if atValue then finish (.number n) stack else breakOff stack
    | .farNumber, _ => if atValue then finish .valueless stack else breakOff stack
    | _, _ => breakOff stack

def read (text : String) : Reading := assemble (tokens text.toList) .value []

def parse? (text : String) : Option Json :=
  let reading := read text
  if reading.trailing then none else reading.document.value?

end ReplicaAtlas.Json
