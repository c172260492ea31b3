import ReplicaAtlas.Json.Basic

/-!
What a text says when it is read as JSON, faults included. A document keeps the order and the repetition
of members; where the text stops being JSON it has a leaf `broken`, and a part that is well formed but has
no value (a number outside the floats, half of a surrogate pair, nesting beyond the limit) is `valueless`.
A value that is kept may have neither, one that is passed over may have valueless parts. Since decoders
visit a document from left to right, the first fault of the text decides.
-/
namespace ReplicaAtlas

inductive Document where
  | null
  | bool (value : Bool)
  | number (value : Number)
  | text (value : String)
  /-- In a closed array nothing may follow the last field of a record. -/
  | array (items : List Document) (closed : Bool)
  /-- A name that has no value as a text is none. -/
  | object (members : List (Option String × Document))
  | valueless
  | broken

/-- Either the text is no JSON, or it is JSON of another shape than the one asked for. -/
inductive Fault where
  | malformed
  | mismatched
  deriving DecidableEq, Repr

namespace Document

def unexpected : Document → Fault
  | .valueless => .malformed
  | .broken => .malformed
  | _ => .mismatched

mutual

def isSkippable : Document → Bool
  | .broken => false
  | .array items _ => allSkippable items
  | .object members => allMembersSkippable members
  | _ => true

def allSkippable : List Document → Bool
  | [] => true
  | d :: ds => d.isSkippable && allSkippable ds

def allMembersSkippable : List (Option String × Document) → Bool
  | [] => true
  | (_, d) :: ms => d.isSkippable && allMembersSkippable ms

end

def skip (d : Document) : Except Fault Unit := if d.isSkippable then .ok () else .error .malformed

mutual

/-- The value of a document; of members with one name the last one stays. -/
def value? : Document → Option Json
  | .null => some .null
  | .bool b => some (.bool b)
  | .number n => some (.number n)
  | .text s => some (.text s)
  | .array items _ => (values? items).map .array
  | .object members => (membersValue? members []).map .object
  | .valueless => none
  | .broken => none

def values? : List Document → Option (List Json)
  | [] => some []
  | d :: ds => do
    let v ← d.value?
    let vs ← values? ds
    return v :: vs

def membersValue? : List (Option String × Document) → List (String × Json) → Option (List (String × Json))
  | [], kept => some kept
  | (none, _) :: _, _ => none
  | (some name, d) :: ms, kept => do
    let v ← d.value?
    membersValue? ms (Entries.put name v kept)

end

def keep (d : Document) : Except Fault Json :=
  match d.value? with
  | some v => .ok v
  | none => .error .malformed

mutual

def ofJson : Json → Document
  | .null => .null
  | .bool b => .bool b
  | .number n => .number n
  | .text s => .text s
  | .array items => .array (ofItems items) true
  | .object members => .object (ofMembers members)

def ofItems : List Json → List Document
  | [] => []
  | v :: vs => ofJson v :: ofItems vs

def ofMembers : List (String × Json) → List (Option String × Document)
  | [] => []
  | (name, v) :: ms => (some name, ofJson v) :: ofMembers ms

end

end Document

end ReplicaAtlas
