import Mathlib.Data.List.TakeWhile
import ReplicaAtlas.Proofs.Json.Values

/-!
Numbers that are read from their own texts. A number is scanned up to the first character that cannot go on with it, so
what is read of its text alone is read of it before a comma or the end of a container. All words of 64 bits are read as
they were, with or without a sign, and no other whole numbers are read.
-/
namespace ReplicaAtlas

deriving instance DecidableEq for Number
deriving instance DecidableEq for Json.Numeric
deriving instance DecidableEq for Json.Token

namespace Json
open Numeral

def Delimited (cs : List Char) : Prop := ∀ c ∈ cs.head?, c = ',' ∨ c = ']' ∨ c = '\x7d'

namespace Delimited

theorem nil : Delimited [] := nofun

theorem cons {c : Char} (delimits : c = ',' ∨ c = ']' ∨ c = '\x7d') (cs : List Char) : Delimited (c :: cs) := by
  rintro _ ⟨⟩
  exact delimits

end Delimited

section Scanning
variable {cs after rest : List Char} (delimited : Delimited rest)
include delimited

theorem takeWhile_isDigit_append (cs : List Char) : (cs ++ rest).takeWhile isDigit = cs.takeWhile isDigit := by
  induction cs with
  | nil =>
    cases rest with
    | nil => rfl
    | cons c tail =>
      rcases delimited c rfl with rfl | rfl | rfl <;> rfl
  | cons c cs ih => rw [List.cons_append, List.takeWhile_cons, List.takeWhile_cons, ih]

theorem dropWhile_isDigit_append (cs : List Char) : (cs ++ rest).dropWhile isDigit = cs.dropWhile isDigit ++ rest := by
  induction cs with
  | nil =>
    cases rest with
    | nil => rfl
    | cons c tail =>
      rcases delimited c rfl with rfl | rfl | rfl <;> rfl
  | cons c cs ih =>
    rw [List.cons_append, List.dropWhile_cons, List.dropWhile_cons, ih]
    split <;> rfl

theorem scanWhole?_append {whole : List Char} (scans : scanWhole? cs = some (whole, after)) :
    scanWhole? (cs ++ rest) = some (whole, after ++ rest) := by
  unfold scanWhole? at scans
  split at scans
  case h_1 tail =>
    split at scans
    · cases scans
    case isFalse alone =>
      cases scans
      refine if_neg ?_
      cases after with
      | cons c tail => exact alone
      | nil =>
        cases rest with
        | nil => exact alone
        | cons c tail => rcases delimited c rfl with rfl | rfl | rfl <;> exact Bool.false_ne_true
  case h_2 notZero =>
    split at scans
    · cases scans
    case isFalse some =>
      cases scans
      have stillNotZero (tail : List Char) : cs ++ rest ≠ '0' :: tail := by
        intro form
        cases cs with
        | nil => exact some rfl
        | cons c cs => exact notZero cs ((List.cons.inj form).1 ▸ rfl)
      rw [scanWhole?, if_neg, takeWhile_isDigit_append delimited, dropWhile_isDigit_append delimited]
      · rwa [takeWhile_isDigit_append delimited]
      · exact stillNotZero

theorem scanFraction?_append {fraction : List Char} (scans : scanFraction? cs = some (fraction, after)) :
    scanFraction? (cs ++ rest) = some (fraction, after ++ rest) := by
  unfold scanFraction? at scans
  split at scans
  case h_1 tail =>
    split at scans
    · cases scans
    case isFalse some =>
      cases scans
      rw [List.cons_append, scanFraction?, takeWhile_isDigit_append delimited, dropWhile_isDigit_append delimited]
      exact if_neg some
  case h_2 notPoint =>
    cases scans
    refine scanFraction?.eq_2 _ fun tail form => ?_
    cases cs with
    | nil => rcases delimited '.' (congrArg List.head? form) with same | same | same <;> cases same
    | cons c cs => exact notPoint cs ((List.cons.inj form).1 ▸ rfl)

omit delimited in
theorem scanSign_append (c : Char) (tail rest : List Char) :
    scanSign (c :: tail ++ rest) = ((scanSign (c :: tail)).1, (scanSign (c :: tail)).2 ++ rest) := by
  rw [List.cons_append, scanSign.eq_def, scanSign.eq_def]
  split
  case h_1 form =>
    cases form
    rfl
  case h_2 form =>
    cases form
    rfl
  case h_3 notMinus notPlus =>
    split
    case h_1 form => exact absurd (congrArg (· ++ rest) form) (notMinus _)
    case h_2 form => exact absurd (congrArg (· ++ rest) form) (notPlus _)
    case h_3 => rfl

theorem scanExponent?_append {exponent : Option (Bool × List Char)}
    (scans : scanExponent? cs = some (exponent, after)) :
    scanExponent? (cs ++ rest) = some (exponent, after ++ rest) := by
  cases cs with
  | nil =>
    cases scans
    cases rest with
    | nil => rfl
    | cons c tail => rcases delimited c rfl with rfl | rfl | rfl <;> rfl
  | cons c tail =>
    rw [scanExponent?] at scans
    rw [List.cons_append, scanExponent?]
    split at scans
    case isTrue marked =>
      rw [if_pos marked]
      cases tail with
      | nil => cases scans
      | cons d digits =>
        rw [scanSign_append]
        dsimp only at scans ⊢
        rw [takeWhile_isDigit_append delimited, dropWhile_isDigit_append delimited]
        split at scans
        · cases scans
        · cases scans
          rename_i some
          exact if_neg some
    case isFalse unmarked =>
      cases scans
      exact if_neg unmarked

theorem scanUnsigned?_append {negative : Bool} {numeric : Numeric}
    (scans : scanUnsigned? negative cs = some (numeric, after)) :
    scanUnsigned? negative (cs ++ rest) = some (numeric, after ++ rest) := by
  simp only [scanUnsigned?, Option.bind_eq_bind, Option.bind_eq_some_iff, Option.pure_def, Option.some.injEq,
    Prod.mk.injEq, Prod.exists] at scans ⊢
  obtain ⟨whole, afterWhole, wholeScans, fraction, afterFraction, fractionScans, exponent, afterExponent,
    exponentScans, rfl, rfl⟩ := scans
  exact ⟨whole, _, scanWhole?_append delimited wholeScans, fraction, _, scanFraction?_append delimited fractionScans,
    exponent, _, scanExponent?_append delimited exponentScans, rfl, rfl⟩

theorem scanNumeric?_append {numeric : Numeric} (scans : scanNumeric? cs = some (numeric, after)) :
    scanNumeric? (cs ++ rest) = some (numeric, after ++ rest) := by
  unfold scanNumeric? at scans
  split at scans
  case h_1 tail => exact scanUnsigned?_append delimited scans
  case h_2 unsigned =>
    have scansOn := scanUnsigned?_append delimited scans
    rw [scanNumeric?]
    · exact scansOn
    · intro tail form
      cases cs with
      | nil => cases scans
      | cons c cs => exact unsigned cs ((List.cons.inj form).1 ▸ rfl)

end Scanning

theorem isDigit_of_mem_toDigits {n : Nat} {c : Char} (member : c ∈ Nat.toDigits 10 n) : isDigit c = true := by
  have digit := Nat.isDigit_of_mem_toDigits (by decide) (by decide) member
  exact digit

theorem value_toDigits (n : Nat) : value (Nat.toDigits 10 n) = n := by
  rw [value]
  exact Nat.ofDigitChars_eq_foldl.symm.trans Nat.ofDigitChars_ten_toDigits

theorem digitChar_ne_zero : ∀ n < 10, 0 < n → n.digitChar ≠ '0' := by decide

theorem head?_toDigits {n : Nat} (positive : 0 < n) : (Nat.toDigits 10 n).head? ≠ some '0' := by
  induction n using Nat.strongRecOn with
  | ind n ih =>
    by_cases small : n < 10
    · rw [Nat.toDigits_of_lt_base small]
      intro same
      exact digitChar_ne_zero n small positive (Option.some.inj same)
    · have inner := ih (n / 10) (by omega) (by omega)
      rw [Nat.toDigits_of_base_le (by decide) (Nat.le_of_not_lt small), List.head?_append]
      cases digits : Nat.toDigits 10 (n / 10) with
      | nil => exact absurd digits Nat.toDigits_ne_nil
      | cons c cs =>
        rw [digits] at inner
        exact inner

theorem scanWhole?_toDigits (n : Nat) : scanWhole? (Nat.toDigits 10 n) = some (Nat.toDigits 10 n, []) := by
  obtain rfl | positive := Nat.eq_zero_or_pos n
  · rfl
  · have taken : (Nat.toDigits 10 n).takeWhile isDigit = Nat.toDigits 10 n :=
      List.takeWhile_eq_self_iff.2 fun _ => isDigit_of_mem_toDigits
    have dropped : (Nat.toDigits 10 n).dropWhile isDigit = [] :=
      List.dropWhile_eq_nil_iff.2 fun _ => isDigit_of_mem_toDigits
    rw [scanWhole?, taken, dropped]
    · exact if_neg fun none => Nat.toDigits_ne_nil (List.isEmpty_iff.1 none)
    · intro tail form
      exact head?_toDigits positive (congrArg List.head? form)

theorem scanUnsigned?_toDigits (negative : Bool) (n : Nat) :
    scanUnsigned? negative (Nat.toDigits 10 n) = some (⟨negative, Nat.toDigits 10 n, [], none⟩, []) := by
  rw [scanUnsigned?, scanWhole?_toDigits]
  rfl

end Json

def Number.Legible (n : Number) : Prop :=
  ∃ numeric, Json.scanNumeric? (Json.render (.number n)).toList = some (numeric, []) ∧ numeric.value? = some n

theorem Number.legible_int {n : Int} (isWord : Json.IsWord n) : (Number.int n).Legible := by
  obtain ⟨lower, upper⟩ := isWord
  cases n with
  | ofNat n =>
    have text : (Json.render (.number (.int n))).toList = Nat.toDigits 10 n := by
      change (toString n).toList = _
      rw [Nat.toString_eq_ofList_toDigits, String.toList_ofList]
    refine ⟨⟨false, Nat.toDigits 10 n, [], none⟩, ?_, ?_⟩
    · change Json.scanNumeric? (Json.render (.number (.int n))).toList = _
      rw [text, Json.scanNumeric?]
      · exact Json.scanUnsigned?_toDigits false n
      · intro tail form
        have digit := Json.isDigit_of_mem_toDigits (form ▸ List.mem_cons_self)
        cases digit
    · have bounded : n < Nat.pow 2 64 := Int.ofNat_lt.1 upper
      simp [Json.Numeric.value?, Json.value_toDigits, bounded]
  | negSucc n =>
    have text : (Json.render (.number (.int (.negSucc n)))).toList = '-' :: Nat.toDigits 10 (n + 1) := by
      change ("-" ++ toString (n + 1)).toList = _
      rw [String.toList_append, Nat.toString_eq_ofList_toDigits, String.toList_ofList, String.toList_ofList]
      rfl
    refine ⟨⟨true, Nat.toDigits 10 (n + 1), [], none⟩, ?_, ?_⟩
    · rw [text, Json.scanNumeric?, Json.scanUnsigned?_toDigits]
    · have bounded : n + 1 ≤ Nat.pow 2 63 := by
        change n + 1 ≤ 9223372036854775808
        omega
      have word : n + 1 < Nat.pow 2 64 := Nat.lt_of_le_of_lt bounded (by decide)
      simp [Json.Numeric.value?, Json.value_toDigits, word, bounded, Int.negSucc_eq]

theorem Json.Numeric.float?_ne_int (numeric : Json.Numeric) (n : Int) : numeric.float? ≠ some (.int n) := by
  rw [Json.Numeric.float?]
  dsimp only
  split
  · exact fun read => nomatch (Option.map_eq_some_iff.1 read).choose_spec.2
  · split
    · split <;> exact nofun
    · exact fun read => nomatch (Option.map_eq_some_iff.1 read).choose_spec.2

theorem Json.Numeric.isWord_of_value? {numeric : Json.Numeric} {n : Int} (read : numeric.value? = some (.int n)) :
    Json.IsWord n := by
  rw [Json.Numeric.value?] at read
  split at read
  case isTrue whole =>
    rw [Bool.and_eq_true, decide_eq_true_iff] at whole
    split at read
    · cases read
      exact Json.isWord_of_natural whole.2
    · split at read
      case isTrue negative =>
        cases read
        rw [Bool.and_eq_true, decide_eq_true_iff, decide_eq_true_iff] at negative
        have least : Numeral.value numeric.whole ≤ 9223372036854775808 := negative.2
        constructor <;> omega
      case isFalse => exact absurd read (float?_ne_int numeric n)
  case isFalse => exact absurd read (float?_ne_int numeric n)

end ReplicaAtlas
