import ReplicaAtlas.Number.Decimal
import ReplicaAtlas.Text.Blank

/-!
Quantities of resources as clusters write them: processor time in cores or thousandths of a core, bytes
with a decimal or binary unit, and plain counts. Fractions are rounded to the nearest whole number, a half
away from zero, and numbers beyond 64 bits stop at the largest one.
-/
namespace ReplicaAtlas.Quantity
open Text Numeral

def rounded? (x scale : Float) : Option Nat :=
  if 0.0 ≤ x then some (x * scale).round.toUInt64.toNat else none

def cpuMillis? (text : String) : Option Nat :=
  let cs := trim text.toList
  match dropEnding? ['m'] cs with
  | some number => bounded? 64 number
  | none => (readFloat? cs).bind (rounded? · 1000.0)

def byteUnits : List (String × Float) := [
  ("Ki", 1024.0), ("Mi", 1048576.0), ("Gi", 1073741824.0), ("Ti", 1099511627776.0),
  ("Pi", 1125899906842624.0), ("Ei", 1152921504606846976.0),
  ("k", 1000.0), ("M", 1000000.0), ("G", 1000000000.0), ("T", 1000000000000.0),
  ("P", 1000000000000000.0), ("E", 1000000000000000000.0)]

def splitUnit (cs : List Char) : List (String × Float) → List Char × Float
  | [] => (cs, 1.0)
  | (unit, size) :: units =>
    match dropEnding? unit.toList cs with
    | some number => (number, size)
    | none => splitUnit cs units

def bytes? (text : String) : Option Nat :=
  let (number, size) := splitUnit (trim text.toList) byteUnits
  (readFloat? number).bind (rounded? · size)

def count? (text : String) : Option Nat := bounded? 64 (trim text.toList)

end ReplicaAtlas.Quantity
