import ReplicaAtlas.Json.Document

/-!
Decoders turn documents into values of the library. A record is described by its fields in order: it is
read from an object, whose unknown members are passed over and whose known ones may not occur twice, or
from an array of the fields' values. A field that is missing keeps its default unless it is required.
-/
namespace ReplicaAtlas

abbrev Decoder (α : Type) := Document → Except Fault α

namespace Decoder

def text : Decoder String
  | .text s => .ok s
  | d => .error d.unexpected

def bool : Decoder Bool
  | .bool b => .ok b
  | d => .error d.unexpected

def natural (bits : Nat) : Decoder Nat
  | .number (.int n) => if 0 ≤ n ∧ n < Nat.pow 2 bits then .ok n.toNat else .error .mismatched
  | d => .error d.unexpected

def word : Decoder UInt32 := fun d => (natural 32 d).map Nat.toUInt32

def wide : Decoder UInt64 := fun d => (natural 64 d).map Nat.toUInt64

def wholeToFloat (n : Int) : Float :=
  if n < 0 then -(n.natAbs.toUInt64.toFloat) else n.toNat.toUInt64.toFloat

def float : Decoder Float
  | .number (.float x) => .ok x
  | .number (.int n) => .ok (wholeToFloat n)
  | d => .error d.unexpected

def optional {α : Type} (decode : Decoder α) : Decoder (Option α)
  | .null => .ok none
  | d => (decode d).map some

def optionalJson : Decoder (Option Json)
  | .null => .ok none
  | d => d.keep.map some

def items {α : Type} (decode : Decoder α) : List Document → Except Fault (List α)
  | [] => .ok []
  | d :: ds => do
    let a ← decode d
    let rest ← items decode ds
    return a :: rest

def list {α : Type} (decode : Decoder α) : Decoder (List α)
  | .array ds _ => items decode ds
  | d => .error d.unexpected

def members {α : Type} (decode : Decoder α) : List (Option String × Document) → Table α → Except Fault (Table α)
  | [], table => .ok table
  | (none, _) :: _, _ => .error .malformed
  | (some name, d) :: rest, table => do
    let a ← decode d
    members decode rest (table.insert name a)

def table {α : Type} (decode : Decoder α) : Decoder (Table α)
  | .object ms => members decode ms .empty
  | d => .error d.unexpected

/-- A name out of a fixed list, alone or as the only member of an object with the value null. -/
def choice {α : Type} (named : String → Option α) : Decoder α
  | .text s => match named s with
    | some a => .ok a
    | none => .error .mismatched
  | .object [(some s, .null)] => match named s with
    | some a => .ok a
    | none => .error .mismatched
  | d => .error d.unexpected

end Decoder

structure Field (ρ : Type) where
  name : String
  required : Bool
  read : Document → ρ → Except Fault ρ

namespace Field
variable {ρ α : Type}

def ofDecoder (name : String) (required : Bool) (decode : Decoder α) (set : α → ρ → ρ) : Field ρ :=
  ⟨name, required, fun d r => (decode d).map (set · r)⟩

def needed (name : String) (decode : Decoder α) (set : α → ρ → ρ) : Field ρ :=
  ofDecoder name true decode set

def defaulted (name : String) (decode : Decoder α) (set : α → ρ → ρ) : Field ρ :=
  ofDecoder name false decode set

end Field

/-- How a record is laid out: its fields in order, and the record before any of them is read. -/
structure Layout (ρ : Type) where
  blank : ρ
  fields : List (Field ρ)

namespace Layout
variable {ρ : Type}

def readMembers (layout : Layout ρ) :
    List (Option String × Document) → List String → ρ → Except Fault (List String × ρ)
  | [], seen, r => .ok (seen, r)
  | (none, _) :: _, _, _ => .error .malformed
  | (some name, d) :: rest, seen, r =>
    match layout.fields.find? (·.name = name) with
    | none => do
      d.skip
      layout.readMembers rest seen r
    | some field =>
      if name ∈ seen then .error .mismatched
      else do
        let r ← field.read d r
        layout.readMembers rest (name :: seen) r

def readItems : List (Field ρ) → List Document → Bool → ρ → Except Fault ρ
  | [], [], _, r => .ok r
  | [], _ :: _, closed, r => if closed then .error .malformed else .ok r
  | field :: fields, [], _, r =>
    if (field :: fields).any (·.required) then .error .mismatched else .ok r
  | field :: fields, d :: ds, closed, r => do
    let r ← field.read d r
    readItems fields ds closed r

def decode (layout : Layout ρ) : Decoder ρ
  | .object ms => do
    let (seen, r) ← layout.readMembers ms [] layout.blank
    if layout.fields.all (fun field => !field.required || seen.contains field.name) then .ok r
    else .error .mismatched
  | .array ds closed => readItems layout.fields ds closed layout.blank
  | d => .error d.unexpected

end Layout

def Decoder.ofText {α : Type} (decode : Decoder α) (reading : Document × Bool) : Except Fault α := do
  let a ← decode reading.1
  if reading.2 then .error .malformed else .ok a

end ReplicaAtlas
