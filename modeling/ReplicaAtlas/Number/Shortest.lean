import ReplicaAtlas.Number.Binary64
import ReplicaAtlas.Number.Decimal

/-!
Shortest decimals of floats. The decimals that a float is nearest to fill the interval between the halfway
points to its neighbours, ends included if the last bit of the float is zero. Among those with the fewest
digits the nearest one to the value of the float is its shortest decimal; of two that are equally near it is
the one with an even last digit.
-/
namespace ReplicaAtlas.Binary64

/-- The value of a float and the ends of its interval as multiples of one fraction. -/
structure Interval where
  low : Nat
  value : Nat
  high : Nat
  isClosed : Bool
  numerator : Nat
  denominator : Nat
  deriving DecidableEq, Repr

namespace Interval

/-- A power of two with fractions of its significand is half as near below as above, the least ones apart. -/
def of (x : Float) (m : Nat) (q : Int) : Interval where
  low := if fractionField x = 0 && 1 < exponentField x then 4 * m - 1 else 4 * m - 2
  value := 4 * m
  high := 4 * m + 2
  isClosed := m % 2 = 0
  numerator := Nat.pow 2 (q - 2).toNat
  denominator := Nat.pow 2 (2 - q).toNat

def inUnits (i : Interval) (exponent : Int) : Interval :=
  { i with
    numerator := i.numerator * Nat.pow 10 (-exponent).toNat
    denominator := i.denominator * Nat.pow 10 exponent.toNat }

def contains (i : Interval) (n : Nat) : Bool :=
  let place := n * i.denominator
  let low := i.low * i.numerator
  let high := i.high * i.numerator
  if i.isClosed then low ≤ place && place ≤ high else low < place && place < high

def nearest? (i : Interval) : Option Nat :=
  let value := i.value * i.numerator
  let below := value / i.denominator
  match i.contains below, i.contains (below + 1) with
  | true, true =>
    let middle := (2 * below + 1) * i.denominator
    some (if 2 * value < middle || (2 * value = middle && below % 2 = 0) then below else below + 1)
  | true, false => some below
  | false, true => some (below + 1)
  | false, false => none

end Interval

/-- A power of ten above m · 2^q, and by less than a factor of a thousand. -/
def unitAbove (m : Nat) (q : Int) : Int := (m.log2 + q) * 30103 / 100000 + 2

/-- Seventeen digits tell all floats apart, so the last resort, which is all digits, is never taken. -/
def shortest? (x : Float) : Option Decimal := do
  let (m, q) ← magnitude? x
  if m = 0 then return ⟨isNegative x, 0, 0⟩
  let interval := Interval.of x m q
  let found := (List.range 20).findSome? fun (step : Nat) =>
    let exponent := unitAbove m q - step
    ((interval.inUnits exponent).nearest?).map fun digits => (⟨isNegative x, digits, exponent⟩ : Decimal)
  return found.getD
    (if 0 ≤ q then ⟨isNegative x, m * Nat.pow 2 q.toNat, 0⟩ else ⟨isNegative x, m * Nat.pow 5 (-q).toNat, q⟩)

end ReplicaAtlas.Binary64
