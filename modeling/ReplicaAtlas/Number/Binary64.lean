/-!
The exact values of 64-bit floats: a finite float is a signed multiple of a power of two, read off its
bits. A float is a natural number when that product is one, so negative zero is the number zero. Whether a
float is a 32-bit word is asked of the float itself, by its order and its fraction.
-/
namespace ReplicaAtlas.Binary64

def infinity : Float := Float.ofBits 0x7FF0000000000000

def isNegative (x : Float) : Bool := Nat.pow 2 63 ≤ x.toBits.toNat

def exponentField (x : Float) : Nat := x.toBits.toNat / Nat.pow 2 52 % Nat.pow 2 11

def fractionField (x : Float) : Nat := x.toBits.toNat % Nat.pow 2 52

def magnitude? (x : Float) : Option (Nat × Int) :=
  if exponentField x = 2047 then none
  else if exponentField x = 0 then some (fractionField x, -1074)
  else some (fractionField x + Nat.pow 2 52, exponentField x - 1075)

def natural? (x : Float) : Option Nat := do
  let (m, q) ← magnitude? x
  let n ←
    if 0 ≤ q then some (m * Nat.pow 2 q.toNat)
    else if m % Nat.pow 2 (-q).toNat = 0 then some (m / Nat.pow 2 (-q).toNat)
    else none
  if isNegative x && n != 0 then none else some n

def fraction (x : Float) : Float := if x < 4503599627370496.0 then x - x.toUInt64.toFloat else x - x

def word? (x : Float) : Option UInt32 :=
  if 0.0 ≤ x && fraction x == 0.0 && x ≤ UInt32.toFloat 4294967295 then some x.toUInt32 else none

end ReplicaAtlas.Binary64
