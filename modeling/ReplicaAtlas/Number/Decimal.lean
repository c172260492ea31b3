import ReplicaAtlas.Number.Binary64
import ReplicaAtlas.Number.Numeral

/-!
Decimal numbers and the floats nearest to them. A written decimal has an optional sign, digits with an
optional point among or beside them, and an optional exponent; the words inf, infinity and nan are read in
any case of letters.
-/
namespace ReplicaAtlas

structure Decimal where
  negative : Bool
  significand : Nat
  exponent : Int

namespace Decimal
open Numeral

def magnitude (significand : Nat) (exponent : Int) : Float :=
  let size := (Nat.toDigits 10 significand).length + exponent
  if significand = 0 || size < -400 then 0.0
  else if 400 < size then Binary64.infinity
  else if 0 ≤ exponent then Float.ofScientific significand false exponent.toNat
  else Float.ofScientific significand true (-exponent).toNat

def toFloat (d : Decimal) : Float :=
  if d.negative then -(magnitude d.significand d.exponent) else magnitude d.significand d.exponent

def sign : List Char → Bool × List Char
  | '-' :: rest => (true, rest)
  | '+' :: rest => (false, rest)
  | cs => (false, cs)

def exponent? : List Char → Option Int
  | [] => some 0
  | e :: rest =>
    if e = 'e' || e = 'E' then
      let (negative, digits) := sign rest
      (natural? digits).map fun n => if negative then -(n : Int) else n
    else none

def unsigned? (negative : Bool) (cs : List Char) : Option Decimal :=
  let (whole, rest) := cs.span isDigit
  let (fraction, rest) := match rest with
    | '.' :: rest => rest.span isDigit
    | _ => ([], rest)
  if whole.isEmpty && fraction.isEmpty then none
  else (exponent? rest).map fun e => ⟨negative, value (whole ++ fraction), e - fraction.length⟩

end Decimal

def readFloat? (cs : List Char) : Option Float :=
  let (negative, rest) := Decimal.sign cs
  let word := String.ofList (rest.map Char.toLower)
  if word = "inf" || word = "infinity" then
    some (if negative then -Binary64.infinity else Binary64.infinity)
  else if word = "nan" then some (0.0 / 0.0)
  else (Decimal.unsigned? negative rest).map Decimal.toFloat

end ReplicaAtlas
