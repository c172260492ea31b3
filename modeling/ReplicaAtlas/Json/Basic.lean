import ReplicaAtlas.Table

/-!
JSON values. A number is a whole number or a float; the members of a kept object ascend by name, so two
objects with the same members are the same value.
-/
namespace ReplicaAtlas

inductive Number where
  | int (value : Int)
  | float (value : Float)

inductive Json where
  | null
  | bool (value : Bool)
  | number (value : Number)
  | text (value : String)
  | array (items : List Json)
  | object (members : List (String × Json))

namespace Json

def nat (n : Nat) : Json := .number (.int n)

def word (n : UInt32) : Json := nat n.toNat

def wide (n : UInt64) : Json := nat n.toNat

def float (x : Float) : Json := .number (.float x)

def texts (items : List String) : Json := .array (items.map .text)

def list {α : Type} (encode : α → Json) (items : List α) : Json := .array (items.map encode)

def option {α : Type} (encode : α → Json) : Option α → Json
  | none => .null
  | some a => encode a

def table {α : Type} (encode : α → Json) (t : Table α) : Json :=
  .object (t.entries.map fun e => (e.1, encode e.2))

def optionalMember {α : Type} (name : String) (encode : α → Json) : Option α → List (String × Json)
  | none => []
  | some a => [(name, encode a)]

def member? (name : String) : Json → Option Json
  | .object members => Entries.find? name members
  | _ => none

end Json

end ReplicaAtlas
