import ReplicaAtlas.Json.Document
import ReplicaAtlas.Number.Decimal
import ReplicaAtlas.Text.Scanner

/-!
Numbers, dates and times of TOML documents. An underscore may stand between two digits. Whole numbers have
64 bits with a sign. A date or a time counts as a record without members, since no text or number can be
read from it.
-/
namespace ReplicaAtlas.Toml
open Text Numeral

def digits (count : Nat) : Scanner Nat := fun cs =>
  if (cs.take count).length = count && (cs.take count).all isDigit then
    some (value (cs.take count), cs.drop count)
  else none

def digitsWithin (count least most : Nat) : Scanner Nat := do
  let n ← digits count
  if least ≤ n && n ≤ most then return n else Scanner.fail

def daysIn (year month : Nat) : Nat :=
  if month = 2 then (if year % 4 = 0 && (year % 100 ≠ 0 || year % 400 = 0) then 29 else 28)
  else if month = 4 || month = 6 || month = 9 || month = 11 then 30
  else 31

def symbol (c : Char) : Scanner Unit := Scanner.exactly [c]

def date : Scanner Unit := do
  let year ← digits 4
  symbol '-'
  let month ← digitsWithin 2 1 12
  symbol '-'
  let _ ← digitsWithin 2 1 (daysIn year month)

def time : Scanner Unit := do
  let _ ← digitsWithin 2 0 23
  symbol ':'
  let _ ← digitsWithin 2 0 59
  symbol ':'
  let _ ← digitsWithin 2 0 60
  let _ ← Scanner.optionally (symbol '.' *> Scanner.run1 isDigit)

def offset : Scanner Unit :=
  Scanner.either (do let _ ← Scanner.char (fun c => c = 'Z' || c = 'z')) do
    let _ ← Scanner.char (fun c => c = '+' || c = '-')
    let _ ← digitsWithin 2 0 23
    symbol ':'
    let _ ← digitsWithin 2 0 59

def moment : Scanner Unit :=
  Scanner.either (do
    date
    let _ ← Scanner.optionally do
      let _ ← Scanner.char (fun c => c = 'T' || c = 't' || c = ' ')
      time
      Scanner.optionally offset) time

def moreDigits (test : Char → Bool) : List Char → List Char × List Char
  | [] => ([], [])
  | c :: rest =>
    if test c then
      let (digits, last) := moreDigits test rest
      (c :: digits, last)
    else match rest with
      | d :: after =>
        if c = '_' && test d then
          let (digits, last) := moreDigits test after
          (d :: digits, last)
        else ([], c :: d :: after)
      | [] => ([], [c])

def digitRun (test : Char → Bool) : Scanner (List Char)
  | c :: rest => if test c then some (moreDigits test (c :: rest)) else none
  | [] => none

def sign : Scanner Bool := fun cs => some (Decimal.sign cs)

def wholeDigits : Scanner (List Char)
  | '0' :: rest => some (['0'], rest)
  | cs => digitRun isDigit cs

def exponent : Scanner Int := do
  let _ ← Scanner.char (fun c => c = 'e' || c = 'E')
  let negative ← sign
  let digits ← digitRun isDigit
  return if negative then -(value digits : Int) else value digits

/-- A number with a fraction, an exponent or both. A number beyond the floats is refused unless negative. -/
def fractional : Scanner Float := do
  let negative ← sign
  let whole ← wholeDigits
  let fraction ← Scanner.optionally (symbol '.' *> digitRun isDigit)
  let exponent ← if fraction.isSome then (·.getD 0) <$> Scanner.optionally exponent else exponent
  let places := fraction.getD []
  let x := Decimal.toFloat ⟨negative, value (whole ++ places), exponent - places.length⟩
  if x == Binary64.infinity then Scanner.fail else return x

def namedFloat : Scanner Float := do
  let negative ← sign
  let x ← Scanner.either (do Scanner.exactly ['i', 'n', 'f']; return Binary64.infinity)
    (do Scanner.exactly ['n', 'a', 'n']; return 0.0 / 0.0)
  return if negative then -x else x

def baseDigits (mark : Char) (base : Nat) : Scanner Int := do
  Scanner.exactly ['0', mark]
  let digits ← digitRun fun c => (hexValue? c).any (· < base)
  return Int.ofNat (digits.foldl (fun n c => base * n + (hexValue? c).getD 0) 0)

def signedDigits : Scanner Int := do
  let negative ← sign
  let digits ← wholeDigits
  return if negative then -(value digits : Int) else value digits

def whole : Scanner Int := do
  let n ← Scanner.either (baseDigits 'x' 16) <| Scanner.either (baseDigits 'o' 8) <|
    Scanner.either (baseDigits 'b' 2) signedDigits
  if -(Nat.pow 2 63 : Int) ≤ n ∧ n < Nat.pow 2 63 then return n else Scanner.fail

def number : Scanner Document :=
  Scanner.either (do moment; return .object []) <|
  Scanner.either (do return .number (.float (← fractional))) <|
  Scanner.either (do return .number (.float (← namedFloat))) (do return .number (.int (← whole)))

end ReplicaAtlas.Toml
