import ReplicaAtlas.Json.Basic
import ReplicaAtlas.Number.Numeral

/-!
The tokens of a JSON text. Reading stops at the first character that starts no token, which leaves the
token `junk` at the end. Each step consumes at least one character.
-/
namespace ReplicaAtlas.Json

inductive Token where
  | leftBrace
  | rightBrace
  | leftBracket
  | rightBracket
  | colon
  | comma
  | null
  | bool (value : Bool)
  | number (value : Number)
  /-- A well-formed number beyond the range of floats. -/
  | farNumber
  | text (value : String)
  /-- A well-formed text with half of a surrogate pair in it. -/
  | unpairedText
  | junk

open Numeral

structure Numeric where
  negative : Bool
  whole : List Char
  fraction : List Char
  exponent : Option (Bool × List Char)

def scanWhole? : List Char → Option (List Char × List Char)
  | '0' :: rest => if (rest.head?.map isDigit).getD false then none else some (['0'], rest)
  | cs => if (cs.takeWhile isDigit).isEmpty then none else some (cs.takeWhile isDigit, cs.dropWhile isDigit)

def scanFraction? : List Char → Option (List Char × List Char)
  | '.' :: rest =>
    if (rest.takeWhile isDigit).isEmpty then none else some (rest.takeWhile isDigit, rest.dropWhile isDigit)
  | cs => some ([], cs)

def scanSign : List Char → Bool × List Char
  | '-' :: rest => (true, rest)
  | '+' :: rest => (false, rest)
  | cs => (false, cs)

def scanExponent? : List Char → Option (Option (Bool × List Char) × List Char)
  | [] => some (none, [])
  | c :: rest =>
    if c = 'e' || c = 'E' then
      let (negative, cs) := scanSign rest
      if (cs.takeWhile isDigit).isEmpty then none
      else some (some (negative, cs.takeWhile isDigit), cs.dropWhile isDigit)
    else some (none, c :: rest)

def scanUnsigned? (negative : Bool) (cs : List Char) : Option (Numeric × List Char) := do
  let (whole, cs) ← scanWhole? cs
  let (fraction, cs) ← scanFraction? cs
  let (exponent, cs) ← scanExponent? cs
  return (⟨negative, whole, fraction, exponent⟩, cs)

def scanNumeric? : List Char → Option (Numeric × List Char)
  | '-' :: rest => scanUnsigned? true rest
  | cs => scanUnsigned? false cs

/-- Take digits up as long as the number stays below 2^64; the second part counts the digits left over. -/
def absorb : Nat → List Char → Nat × Nat
  | n, [] => (n, 0)
  | n, d :: ds =>
    if 10 * n + digitValue d < Nat.pow 2 64 then absorb (10 * n + digitValue d) ds else (n, ds.length + 1)

def powerOfTen (k : Nat) : Float := Float.ofScientific 1 false k

def divideByPower (x : Float) (k : Nat) : Float :=
  if k ≤ 308 then x / powerOfTen k
  else if x == 0.0 then x
  else divideByPower (x / powerOfTen 308) (k - 308)
termination_by k

def scaled? (significand : Nat) (exponent : Int) : Option Float :=
  let x := significand.toUInt64.toFloat
  if exponent < 0 then some (divideByPower x (-exponent).toNat)
  else if exponent ≤ 308 then
    let y := x * powerOfTen exponent.toNat
    if y.isInf then none else some y
  else if significand = 0 then some x
  else none

namespace Numeric

def signed (numeric : Numeric) (x : Float) : Number := .float (if numeric.negative then -x else x)

/-- Digits past 64 bits of significand are dropped, before the point with a step of the exponent. -/
def float? (numeric : Numeric) : Option Number :=
  let (significand, extra) := absorb 0 numeric.whole
  let (significand, dropped) := absorb significand numeric.fraction
  let shift : Int := extra - (numeric.fraction.length - dropped : Nat)
  match numeric.exponent with
  | none => (scaled? significand shift).map numeric.signed
  | some (negative, digits) =>
    let size := value digits
    if Nat.pow 2 31 ≤ size then
      if significand ≠ 0 && !negative then none else some (numeric.signed 0.0)
    else (scaled? significand (if negative then shift - size else shift + size)).map numeric.signed

/-- A whole number from -2^63 to 2^64 - 1 is kept exactly, but minus zero is the float. -/
def value? (numeric : Numeric) : Option Number :=
  let n := value numeric.whole
  if numeric.fraction.isEmpty && numeric.exponent.isNone && n < Nat.pow 2 64 then
    if !numeric.negative then some (.int n)
    else if 0 < n && n ≤ Nat.pow 2 63 then some (.int (-n))
    else numeric.float?
  else numeric.float?

end Numeric

/-- A character of a text, or one half of a surrogate pair that was written as an escape. -/
inductive TextUnit where
  | char (c : Char)
  | half (code : Nat)

def TextUnit.ofCode (n : Nat) : TextUnit :=
  if 0xD800 ≤ n && n ≤ 0xDFFF then .half n else .char (Char.ofNat n)

def hexCode? (a b c d : Char) : Option Nat := do
  return 4096 * (← hexValue? a) + 256 * (← hexValue? b) + 16 * (← hexValue? c) + (← hexValue? d)

def shortEscape? : Char → Option Char
  | '"' => some '"'
  | '\\' => some '\\'
  | '/' => some '/'
  | 'b' => some '\x08'
  | 'f' => some '\x0c'
  | 'n' => some '\n'
  | 'r' => some '\r'
  | 't' => some '\t'
  | _ => none

def scanUnits? (before : List TextUnit) : List Char → Option (List TextUnit × List Char)
  | [] => none
  | '"' :: rest => some (before, rest)
  | '\\' :: 'u' :: a :: b :: c :: d :: rest =>
    match hexCode? a b c d with
    | some n => scanUnits? (TextUnit.ofCode n :: before) rest
    | none => none
  | '\\' :: e :: rest =>
    match shortEscape? e with
    | some c => scanUnits? (.char c :: before) rest
    | none => none
  | c :: rest => if c.toNat < 0x20 || c = '\\' then none else scanUnits? (.char c :: before) rest

def joinUnits? : List TextUnit → Option (List Char)
  | [] => some []
  | .char c :: rest => (joinUnits? rest).map (c :: ·)
  | .half high :: .half low :: rest =>
    if high < 0xDC00 && 0xDC00 ≤ low then
      (joinUnits? rest).map (Char.ofNat (0x10000 + 1024 * (high - 0xD800) + (low - 0xDC00)) :: ·)
    else none
  | .half _ :: _ => none

def textToken (units : List TextUnit) : Token :=
  match joinUnits? units with
  | some cs => .text (String.ofList cs)
  | none => .unpairedText

def isSpace (c : Char) : Bool := c = ' ' || c = '\t' || c = '\n' || c = '\r'

def scanToken : List Char → Token × List Char
  | [] => (.junk, [])
  | '{' :: rest => (.leftBrace, rest)
  | '}' :: rest => (.rightBrace, rest)
  | '[' :: rest => (.leftBracket, rest)
  | ']' :: rest => (.rightBracket, rest)
  | ':' :: rest => (.colon, rest)
  | ',' :: rest => (.comma, rest)
  | 'n' :: 'u' :: 'l' :: 'l' :: rest => (.null, rest)
  | 't' :: 'r' :: 'u' :: 'e' :: rest => (.bool true, rest)
  | 'f' :: 'a' :: 'l' :: 's' :: 'e' :: rest => (.bool false, rest)
  | '"' :: rest =>
    match scanUnits? [] rest with
    | some (units, rest) => (textToken units.reverse, rest)
    | none => (.junk, [])
  | cs =>
    match scanNumeric? cs with
    | some (numeric, rest) => ((numeric.value?.map Token.number).getD .farNumber, rest)
    | none => (.junk, [])

theorem length_dropWhile_le {α : Type} (p : α → Bool) (l : List α) : (l.dropWhile p).length ≤ l.length :=
  (List.dropWhile_suffix p).length_le

theorem scanWhole?_length {cs whole rest : List Char} (h : scanWhole? cs = some (whole, rest)) :
    rest.length < cs.length := by
  unfold scanWhole? at h
  split at h
  · split at h
    · cases h
    · cases h
      simp
  · split at h
    · cases h
    · cases h
      rename_i digits
      have total := congrArg List.length (List.takeWhile_append_dropWhile (p := isDigit) (l := cs))
      rw [List.length_append] at total
      have : (cs.takeWhile isDigit).length ≠ 0 := by simpa using digits
      omega

theorem scanFraction?_length {cs fraction rest : List Char} (h : scanFraction? cs = some (fraction, rest)) :
    rest.length ≤ cs.length := by
  unfold scanFraction? at h
  split at h
  · split at h
    · cases h
    · cases h
      exact Nat.le_succ_of_le (length_dropWhile_le ..)
  · cases h
    exact Nat.le_refl _

theorem scanSign_length (cs : List Char) : (scanSign cs).2.length ≤ cs.length := by
  unfold scanSign
  split <;> simp

theorem scanExponent?_length {cs rest : List Char} {exponent : Option (Bool × List Char)}
    (h : scanExponent? cs = some (exponent, rest)) : rest.length ≤ cs.length := by
  unfold scanExponent? at h
  split at h
  · cases h
    exact Nat.le_refl _
  · rename_i c tail
    split at h
    · simp only at h
      split at h
      · cases h
      · cases h
        have dropped := length_dropWhile_le isDigit (scanSign tail).2
        have signed := scanSign_length tail
        simp only [List.length_cons]
        omega
    · cases h
      exact Nat.le_refl _

theorem scanUnsigned?_length {negative : Bool} {cs rest : List Char} {numeric : Numeric}
    (h : scanUnsigned? negative cs = some (numeric, rest)) : rest.length < cs.length := by
  unfold scanUnsigned? at h
  simp only [Option.bind_eq_bind, Option.bind_eq_some_iff, Option.pure_def, Option.some.injEq,
    Prod.mk.injEq, Prod.exists] at h
  obtain ⟨whole, afterWhole, wholeRead, fraction, afterFraction, fractionRead, exponent, afterExponent,
    exponentRead, -, rfl⟩ := h
  have := scanWhole?_length wholeRead
  have := scanFraction?_length fractionRead
  have := scanExponent?_length exponentRead
  omega

theorem scanNumeric?_length {cs rest : List Char} {numeric : Numeric}
    (h : scanNumeric? cs = some (numeric, rest)) : rest.length < cs.length := by
  unfold scanNumeric? at h
  split at h
  · have := scanUnsigned?_length h
    simp only [List.length_cons]
    omega
  · exact scanUnsigned?_length h

theorem scanUnits?_length {before units : List TextUnit} {cs rest : List Char}
    (h : scanUnits? before cs = some (units, rest)) : rest.length < cs.length := by
  fun_induction scanUnits? before cs with
  | case1 => cases h
  | case2 =>
    cases h
    simp
  | case3 _ _ _ _ _ _ _ _ ih =>
    have := ih h
    simp only [List.length_cons]
    omega
  | case4 => cases h
  | case5 _ _ _ _ _ _ ih =>
    have := ih h
    simp only [List.length_cons]
    omega
  | case6 => cases h
  | case7 => cases h
  | case8 _ _ _ _ _ _ _ ih =>
    have := ih h
    simp only [List.length_cons]
    omega

theorem scanToken_length (c : Char) (cs : List Char) : (scanToken (c :: cs)).2.length < (c :: cs).length := by
  unfold scanToken
  split
  case h_1 same => cases same
  case h_11 rest same =>
    cases same
    split
    case h_1 units rest read =>
      have := scanUnits?_length read
      simp only [List.length_cons]
      omega
    case h_2 => simp
  case h_12 =>
    split
    case h_1 numeric rest read => exact scanNumeric?_length read
    case h_2 => simp
  all_goals
    rename_i same
    have := congrArg List.length same
    simp only [List.length_cons] at this ⊢
    omega

def tokens (cs : List Char) : List Token :=
  match _start : cs.dropWhile isSpace with
  | [] => []
  | c :: rest =>
    match scanToken (c :: rest), scanToken_length c rest with
    | (.junk, _), _ => [.junk]
    | (token, after), _shorter => token :: tokens after
termination_by cs.length
decreasing_by
  have := length_dropWhile_le isSpace cs
  rw [_start] at this
  simp only at _shorter
  omega

end ReplicaAtlas.Json
