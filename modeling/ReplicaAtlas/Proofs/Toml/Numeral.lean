import Mathlib.Algebra.Group.Nat.Defs
import ReplicaAtlas.Proofs.Json.Numbers
import ReplicaAtlas.Proofs.Text.Scanner
import ReplicaAtlas.Toml.Printer
import ReplicaAtlas.Toml.Numeral

/-!
Whole numbers that are written into a TOML document are read back from it. With only digits up to the end of the line
there is no date, no time and no float that the number could be taken for.
-/
namespace ReplicaAtlas.Toml
open Text Numeral Scanner

theorem symbol_eq_none {c : Char} {cs : List Char} (other : cs.head? ≠ some c) : symbol c cs = none := by
  refine exactly_eq_none ?_
  rintro ⟨rest, rfl⟩
  exact other rfl

theorem symbol_cons (c : Char) (rest : List Char) : symbol c (c :: rest) = some ((), rest) := exactly_append [c] rest

section Digits
variable {ds : List Char} (all : ∀ c ∈ ds, isDigit c = true) (rest : List Char)
include all

theorem head?_digits {c : Char} (noDigit : isDigit c = false) (noNewline : c ≠ '\n') :
    (ds ++ '\n' :: rest).head? ≠ some c := by
  cases ds with
  | nil =>
    intro same
    exact noNewline (Option.some.inj same).symm
  | cons d ds =>
    intro same
    cases same
    exact Bool.false_ne_true (noDigit.symm.trans (all c List.mem_cons_self))

theorem exactly_digits {c : Char} (noDigit : isDigit c = false) (noNewline : c ≠ '\n') (word : List Char) :
    exactly (c :: word) (ds ++ '\n' :: rest) = none := by
  refine exactly_eq_none ?_
  rintro ⟨after, same⟩
  exact head?_digits all rest noDigit noNewline (congrArg List.head? same.symm)

theorem digits_digits (count : ℕ) : digits count (ds ++ '\n' :: rest) = none ∨
    ∃ n left, (∀ c ∈ left, isDigit c = true) ∧ digits count (ds ++ '\n' :: rest) = some (n, left ++ '\n' :: rest) := by
  by_cases enough : count ≤ ds.length
  case neg =>
    -- The end of the line is among the characters that are taken, and it is no digit.
    have newline : '\n' ∈ (ds ++ '\n' :: rest).take count := by
      obtain ⟨more, same⟩ : ∃ more, count - ds.length = more + 1 := ⟨count - ds.length - 1, by omega⟩
      rw [List.take_append, same, List.take_succ_cons]
      exact List.mem_append_right _ List.mem_cons_self
    refine .inl (if_neg ?_)
    rw [Bool.and_eq_true, List.all_eq_true]
    rintro ⟨-, digits⟩
    exact absurd (digits '\n' newline) (by decide)
  case pos =>
    have dropped : (ds ++ '\n' :: rest).drop count = ds.drop count ++ '\n' :: rest :=
      List.drop_append_of_le_length enough
    by_cases read : ((ds ++ '\n' :: rest).take count).length = count && ((ds ++ '\n' :: rest).take count).all isDigit
    · refine .inr ⟨value ((ds ++ '\n' :: rest).take count), ds.drop count, ?_, (if_pos read).trans ?_⟩
      · exact fun c member => all c (List.mem_of_mem_drop member)
      · rw [dropped]
    · exact .inl (if_neg read)

theorem digitsWithin_digits (count least most : ℕ) : digitsWithin count least most (ds ++ '\n' :: rest) = none ∨
    ∃ n left, (∀ c ∈ left, isDigit c = true) ∧
      digitsWithin count least most (ds ++ '\n' :: rest) = some (n, left ++ '\n' :: rest) := by
  rcases digits_digits all rest count with fails | ⟨n, left, digits, reads⟩
  · exact .inl (bind_of_none fails)
  · rw [digitsWithin, bind_of_some reads]
    split
    · exact .inr ⟨n, left, digits, rfl⟩
    · exact .inl rfl

theorem date_digits : date (ds ++ '\n' :: rest) = none := by
  rcases digits_digits all rest 4 with fails | ⟨year, left, digits, reads⟩
  · exact bind_of_none fails
  · exact (bind_of_some reads).trans (bind_of_none (exactly_digits digits rest (by decide) (by decide) []))

theorem time_digits : time (ds ++ '\n' :: rest) = none := by
  rcases digitsWithin_digits all rest 2 0 23 with fails | ⟨hour, left, digits, reads⟩
  · exact bind_of_none fails
  · exact (bind_of_some reads).trans (bind_of_none (exactly_digits digits rest (by decide) (by decide) []))

theorem moment_digits : moment (ds ++ '\n' :: rest) = none :=
  (either_of_none (bind_of_none (date_digits all rest))).trans (time_digits all rest)

theorem sign_digits : sign (ds ++ '\n' :: rest) = some (false, ds ++ '\n' :: rest) := by
  have plus := head?_digits all rest (c := '+') (by decide) (by decide)
  have minus := head?_digits all rest (c := '-') (by decide) (by decide)
  rw [sign, Decimal.sign]
  · intro tail form
    exact minus (congrArg List.head? form)
  · intro tail form
    exact plus (congrArg List.head? form)

theorem moreDigits_digits : moreDigits isDigit (ds ++ '\n' :: rest) = (ds, '\n' :: rest) := by
  have newline : isDigit '\n' = false := by decide
  induction ds with
  | nil => cases rest <;> simp [moreDigits, newline]
  | cons d ds ih =>
    obtain ⟨digit, others⟩ := List.forall_mem_cons.1 all
    rw [List.cons_append, moreDigits.eq_def]
    simp only [digit, if_true, ih others]

theorem namedFloat_digits : namedFloat (ds ++ '\n' :: rest) = none := by
  refine (bind_of_some (sign_digits all rest)).trans (bind_of_none ?_)
  refine (either_of_none (bind_of_none ?_)).trans (bind_of_none ?_)
  · exact exactly_digits all rest (by decide) (by decide) _
  · exact exactly_digits all rest (by decide) (by decide) _

theorem baseDigits_digits {mark : Char} (noDigit : isDigit mark = false) (noNewline : mark ≠ '\n') (base : ℕ) :
    baseDigits mark base (ds ++ '\n' :: rest) = none := by
  refine bind_of_none (exactly_eq_none ?_)
  rintro ⟨after, same⟩
  cases ds with
  | nil => exact absurd (List.cons.inj same).1 (by decide)
  | cons d ds =>
    obtain ⟨-, others⟩ := List.forall_mem_cons.1 all
    exact head?_digits others rest noDigit noNewline (congrArg List.head? (List.cons.inj same).2.symm)

end Digits

section Number
variable (n : ℕ) (rest : List Char)

theorem isDigit_of_mem_printNumber {n : ℕ} : ∀ c ∈ printNumber n, isDigit c = true :=
  fun _ => Json.isDigit_of_mem_toDigits

theorem wholeDigits_printNumber : wholeDigits (printNumber n ++ '\n' :: rest) = some (printNumber n, '\n' :: rest) := by
  obtain rfl | positive := Nat.eq_zero_or_pos n
  · rfl
  cases digits : printNumber n with
  | nil => exact absurd digits Nat.toDigits_ne_nil
  | cons d ds =>
    have all : ∀ c ∈ d :: ds, isDigit c = true := digits ▸ isDigit_of_mem_printNumber
    have notZero : d ≠ '0' := by
      rintro rfl
      exact Json.head?_toDigits positive (congrArg List.head? digits)
    rw [wholeDigits]
    · exact (if_pos (all d List.mem_cons_self)).trans (congrArg some (moreDigits_digits all rest))
    · intro tail form
      exact notZero (List.cons.inj form).1

theorem fractional_printNumber : fractional (printNumber n ++ '\n' :: rest) = none := by
  refine (bind_of_some (sign_digits isDigit_of_mem_printNumber rest)).trans ?_
  refine (bind_of_some (wholeDigits_printNumber n rest)).trans ?_
  -- Neither a point nor an exponent follows the digits.
  exact (bind_of_some (optionally_of_none (bind_of_none rfl))).trans (bind_of_none rfl)

theorem signedDigits_printNumber : signedDigits (printNumber n ++ '\n' :: rest) = some (Int.ofNat n, '\n' :: rest) := by
  refine (bind_of_some (sign_digits isDigit_of_mem_printNumber rest)).trans ?_
  refine (bind_of_some (wholeDigits_printNumber n rest)).trans ?_
  exact congrArg (fun n => some (Int.ofNat n, '\n' :: rest)) (Json.value_toDigits n)

variable {n}

theorem whole_printNumber (fits : n < 2 ^ 63) :
    whole (printNumber n ++ '\n' :: rest) = some (Int.ofNat n, '\n' :: rest) := by
  have noBase {mark : Char} (noDigit : isDigit mark = false) (noNewline : mark ≠ '\n') (base : ℕ) :=
    baseDigits_digits (isDigit_of_mem_printNumber (n := n)) rest noDigit noNewline base
  have reads : either (baseDigits 'x' 16) (either (baseDigits 'o' 8) (either (baseDigits 'b' 2) signedDigits))
      (printNumber n ++ '\n' :: rest) = some (Int.ofNat n, '\n' :: rest) := by
    rw [either_of_none (noBase (by decide) (by decide) 16), either_of_none (noBase (by decide) (by decide) 8),
      either_of_none (noBase (by decide) (by decide) 2), signedDigits_printNumber]
  rw [whole, bind_of_some reads, if_pos]
  · rfl
  · constructor
    · exact Int.le_trans (by decide) (Int.natCast_nonneg n)
    · exact Int.ofNat_lt.2 fits

theorem number_printNumber (fits : n < 2 ^ 63) :
    number (printNumber n ++ '\n' :: rest) = some (.number (.int n), '\n' :: rest) := by
  rw [number, either_of_none (bind_of_none (moment_digits isDigit_of_mem_printNumber rest)),
    either_of_none (bind_of_none (fractional_printNumber n rest)),
    either_of_none (bind_of_none (namedFloat_digits isDigit_of_mem_printNumber rest)),
    bind_of_some (whole_printNumber rest fits)]
  rfl

end Number

end ReplicaAtlas.Toml
