import Mathlib.Data.Nat.Notation
import Mathlib.Logic.Basic
import Mathlib.Tactic.SplitIfs
import ReplicaAtlas.Toml.Printer

/-!
What is read up to the closing quotes of a text, for characters as a writer puts them down. Of quotes in the text none
is taken for a closing one, since no three of them stand in a row, and those right before the closing ones are read with
them.
-/
namespace ReplicaAtlas.Toml
open Text Numeral

section Closing
variable {quote : Char}

theorem closing?_one {c : Char} (other : c ≠ quote) (rest : List Char) :
    closing? quote (quote :: c :: rest) = none := by
  cases rest with
  | nil => rfl
  | cons d rest => simp [closing?, other]

theorem closing?_two {c : Char} (other : c ≠ quote) (rest : List Char) :
    closing? quote (quote :: quote :: c :: rest) = none := by
  simp [closing?, other]

variable {tail : List Char} (clear : tail.head? ≠ some quote)
include clear

theorem closing?_three : closing? quote (quote :: quote :: quote :: tail) = some ([], tail) := by
  cases tail with
  | nil => simp [closing?]
  | cons d rest =>
    have other : d ≠ quote := fun same => clear (congrArg some same)
    cases rest with
    | nil => simp [closing?, other]
    | cons e rest => simp [closing?, other]

theorem closing?_four : closing? quote (quote :: quote :: quote :: quote :: tail) = some ([quote], tail) := by
  cases tail with
  | nil => simp [closing?]
  | cons d rest =>
    have other : d ≠ quote := fun same => clear (congrArg some same)
    simp [closing?, other]

omit clear in
theorem closing?_five :
    closing? quote (quote :: quote :: quote :: quote :: quote :: tail) = some ([quote, quote], tail) := by
  simp [closing?]

end Closing

theorem not_line_of_isPlain {c : Char} (plain : isPlain c = true) : c ≠ '\n' ∧ c ≠ '\r' := by
  constructor
  · rintro rfl
    exact absurd plain (by decide)
  · rintro rfl
    exact absurd plain (by decide)

theorem not_endsLine {e : Char} (visible : isLineSpace e = false) (noLine : e ≠ '\n' ∧ e ≠ '\r') (rest : List Char) :
    endsLine (e :: rest) = false := by
  have stays : (e :: rest).dropWhile isLineSpace = e :: rest := List.dropWhile_cons_of_neg (by simp [visible])
  rw [endsLine, stays]
  split
  case h_1 form => exact absurd (List.cons.inj form).1 noLine.1
  case h_2 form => exact absurd (List.cons.inj form).1 noLine.2
  case h_3 => rfl

section Basic
variable {long : Bool} (rest : List Char)

theorem basicRest_plain {c : Char} (noQuote : c ≠ '"') (noSlash : c ≠ '\\') (plain : isPlain c = true) :
    basicRest long .none (c :: rest) = prepend c (basicRest long .none rest) := by
  obtain ⟨noNewline, noReturn⟩ := not_line_of_isPlain plain
  rw [basicRest.eq_def]
  simp [noQuote, noSlash, noNewline, noReturn, plain]

theorem basicRest_newline : basicRest true .none ('\n' :: rest) = prepend '\n' (basicRest true .none rest) := by
  rw [basicRest.eq_def]
  rfl

theorem basicRest_escape {e c : Char} (noLine : endsLine (e :: rest) = false) (noCode : e ≠ 'u' ∧ e ≠ 'U')
    (short : shortEscape? e = some c) :
    basicRest long .none ('\\' :: e :: rest) = prepend c (basicRest long .none rest) := by
  rw [basicRest.eq_def]
  simp [noLine, noCode, short]

theorem basicRest_code {digit : Char} {left n value : ℕ} (read : hexValue? digit = some n) :
    basicRest long (.code (left + 2) value) (digit :: rest) =
      basicRest long (.code (left + 1) (16 * value + n)) rest := by
  rw [basicRest.eq_def]
  simp [read]

theorem basicRest_codeEnd {digit c : Char} {n value : ℕ} (read : hexValue? digit = some n)
    (whole : 16 * value + n = c.toNat) :
    basicRest long (.code 1 value) (digit :: rest) = prepend c (basicRest long .none rest) := by
  have valid : c.toNat.isValidChar := c.valid
  rw [basicRest.eq_def]
  simp [read, whole, valid, Char.ofNat_toNat]

theorem basicRest_codeEscape {c : Char} (control : isControl c = true) :
    basicRest long .none (codeEscape c ++ rest) = prepend c (basicRest long .none rest) := by
  have small : c.toNat < 128 := by
    simp only [isControl, Bool.or_eq_true, decide_eq_true_eq] at control
    omega
  have starts (digits : List Char) :
      basicRest long .none ('\\' :: 'u' :: digits) = basicRest long (.code 4 0) digits := by
    rw [basicRest.eq_def]
    simp [not_endsLine (e := 'u') (by decide) (by decide) digits]
  have digit (n : ℕ) : hexValue? (upperHexDigit (n % 16)) = some (n % 16) :=
    hexValue?_upperHexDigit _ (Nat.mod_lt n (by decide))
  rw [codeEscape, List.cons_append, List.cons_append, starts]
  simp only [List.cons_append, List.nil_append]
  rw [basicRest_code _ (digit _), basicRest_code _ (digit _), basicRest_code _ (digit _),
    basicRest_codeEnd (c := c) _ (digit _) (by omega)]

theorem basicRest_basicChar {c : Char} (noQuote : c ≠ '"') :
    basicRest long .none (basicChar long c ++ rest) = prepend c (basicRest long .none rest) := by
  have escape {e d : Char} (visible : isLineSpace e = false) (noLine : e ≠ '\n' ∧ e ≠ '\r') (noCode : e ≠ 'u' ∧ e ≠ 'U')
      (short : shortEscape? e = some d) :
      basicRest long .none (['\\', e] ++ rest) = prepend d (basicRest long .none rest) :=
    basicRest_escape rest (not_endsLine visible noLine rest) noCode short
  unfold basicChar
  split_ifs with backspace tab line long feed back slash control
  · exact backspace ▸ escape (by decide) (by decide) (by decide) rfl
  · exact tab ▸ escape (by decide) (by decide) (by decide) rfl
  · cases long
    exact line ▸ basicRest_newline rest
  · exact line ▸ escape (by decide) (by decide) (by decide) rfl
  · exact feed ▸ escape (by decide) (by decide) (by decide) rfl
  · exact back ▸ escape (by decide) (by decide) (by decide) rfl
  · cases slash
    exact escape (by decide) (by decide) (by decide) rfl
  · exact basicRest_codeEscape rest control
  · exact basicRest_plain rest noQuote slash (by simp [isPlain, control])

theorem basicRest_quoteEscape :
    basicRest long .none ('\\' :: '"' :: rest) = prepend '"' (basicRest long .none rest) :=
  basicRest_escape rest (not_endsLine (by decide) (by decide) rest) (by decide) rfl

theorem basicRest_closed {closed : List Char × List Char} (ends : closing? '"' ('"' :: rest) = some closed) :
    basicRest true .none ('"' :: rest) = some closed := by
  rw [basicRest.eq_def]
  simp [ends]

theorem basicRest_open (goesOn : closing? '"' ('"' :: rest) = none) :
    basicRest true .none ('"' :: rest) = prepend '"' (basicRest true .none rest) := by
  rw [basicRest.eq_def]
  simp [goesOn]

theorem basicRest_short : basicRest false .none ('"' :: rest) = some ([], rest) := by
  rw [basicRest.eq_def]
  simp

end Basic

/-- A character is written as an escape or as it is; a carriage return is always an escape. -/
theorem basicChar_starts (long : Bool) (c : Char) :
    ∃ d more, basicChar long c = d :: more ∧ (d = '\\' ∨ d = c ∧ c ≠ '\r') := by
  unfold basicChar codeEscape
  split_ifs with backspace tab line long feed back slash control
  · exact ⟨_, _, rfl, .inl rfl⟩
  · exact ⟨_, _, rfl, .inl rfl⟩
  · exact ⟨_, _, rfl, .inr ⟨rfl, line ▸ by decide⟩⟩
  · exact ⟨_, _, rfl, .inl rfl⟩
  · exact ⟨_, _, rfl, .inl rfl⟩
  · exact ⟨_, _, rfl, .inl rfl⟩
  · exact ⟨_, _, rfl, .inl rfl⟩
  · exact ⟨_, _, rfl, .inl rfl⟩
  · exact ⟨_, _, rfl, .inr ⟨rfl, back⟩⟩

/-- A text that does not begin with a quote is not written with one, nor is a quote that follows two others. -/
theorem basicChars_starts {long : Bool} (quotes : ℕ) {c : Char} (other : c ≠ '"' ∨ long = false ∨ 2 ≤ quotes)
    (rest : List Char) : ∃ d more, basicChars long quotes (c :: rest) = d :: more ∧ d ≠ '"' := by
  by_cases quote : c = '"'
  · have escaped : (long && decide (quotes < 2)) = false := by
      rcases other with other | rfl | many
      · exact absurd quote other
      · rfl
      · rw [decide_eq_false (Nat.not_lt.2 many), Bool.and_false]
    exact ⟨'\\', '"' :: basicChars long 0 rest, by rw [basicChars, if_pos quote, escaped]; rfl, by decide⟩
  · obtain ⟨d, more, first, escaped | ⟨same, -⟩⟩ := basicChar_starts long c
    · exact ⟨d, more ++ basicChars long 0 rest, by rw [basicChars, if_neg quote, first]; rfl, escaped ▸ by decide⟩
    · exact ⟨d, more ++ basicChars long 0 rest, by rw [basicChars, if_neg quote, first]; rfl, same ▸ quote⟩

theorem basicRest_basicChars_short (cs tail : List Char) (quotes : ℕ) :
    basicRest false .none (basicChars false quotes cs ++ '"' :: tail) = some (cs, tail) := by
  induction cs generalizing quotes with
  | nil => exact basicRest_short tail
  | cons c cs ih =>
    rw [basicChars]
    by_cases quote : c = '"'
    · simp only [quote, if_true, Bool.false_and, Bool.false_eq_true, if_false, List.cons_append]
      rw [basicRest_quoteEscape, ih]
      rfl
    · rw [if_neg quote, List.append_assoc, basicRest_basicChar _ quote, ih]
      rfl

theorem basicChars_quote {quotes : ℕ} (few : quotes < 2) (cs : List Char) :
    basicChars true quotes ('"' :: cs) = '"' :: basicChars true (quotes + 1) cs := by
  rw [basicChars, decide_eq_true few]
  rfl

theorem basicChars_quoteEscape {quotes : ℕ} (many : 2 ≤ quotes) (cs : List Char) :
    basicChars true quotes ('"' :: cs) = '\\' :: '"' :: basicChars true 0 cs := by
  rw [basicChars, decide_eq_false (Nat.not_lt.2 many)]
  rfl

section Long
variable {tail : List Char} (clear : tail.head? ≠ some '"')
include clear

/-- A quote that stands as it is does not end the text, unless with all that is left of it before the closing ones. -/
theorem closing?_basicChars (quotes : ℕ) (cs : List Char) :
    closing? '"' ('"' :: (basicChars true (quotes + 1) cs ++ '"' :: '"' :: '"' :: tail)) = none ∨
      closing? '"' ('"' :: (basicChars true (quotes + 1) cs ++ '"' :: '"' :: '"' :: tail)) =
        some ('"' :: cs, tail) := by
  cases cs with
  | nil => exact .inr (closing?_four clear)
  | cons d cs =>
    by_cases other : d ≠ '"' ∨ true = false ∨ 2 ≤ quotes + 1
    case pos =>
      obtain ⟨e, more, first, noQuote⟩ := basicChars_starts (quotes + 1) other cs
      exact .inl (first ▸ closing?_one noQuote _)
    case neg =>
      simp only [ne_eq, Bool.true_eq_false, false_or, not_or, not_not, Nat.not_le] at other
      obtain ⟨rfl, few⟩ := other
      obtain rfl : quotes = 0 := by omega
      rw [basicChars_quote few]
      cases cs with
      | nil => exact .inr closing?_five
      | cons e cs =>
        obtain ⟨f, more, second, noQuote⟩ := basicChars_starts 2 (.inr (.inr (Nat.le_refl 2))) cs
        exact .inl (second ▸ closing?_two noQuote _)

/-- Of three quotes in a row the third one is escaped. -/
theorem basicRest_basicChars_long (cs : List Char) (quotes : ℕ) :
    basicRest true .none (basicChars true quotes cs ++ '"' :: '"' :: '"' :: tail) = some (cs, tail) := by
  -- The writer counts the quotes before each character, so the induction is for any such count.
  induction cs generalizing quotes with
  | nil => exact basicRest_closed _ (closing?_three clear)
  | cons c cs ih =>
    by_cases quote : c = '"'
    case neg =>
      rw [basicChars, if_neg quote, List.append_assoc, basicRest_basicChar _ quote, ih]
      rfl
    case pos =>
      subst quote
      by_cases many : 2 ≤ quotes
      case pos =>
        rw [basicChars_quoteEscape many, List.cons_append, List.cons_append, basicRest_quoteEscape, ih]
        rfl
      case neg =>
        rw [basicChars_quote (Nat.lt_of_not_le many), List.cons_append]
        -- Either the text goes on behind the quote, or it is read to its end at once.
        rcases closing?_basicChars clear quotes cs with goesOn | ends
        · rw [basicRest_open _ goesOn, ih]
          rfl
        · exact basicRest_closed _ ends

end Long

theorem not_needsEscape_iff {c : Char} : needsEscape c = false ↔ isPlain c = true ∨ c = '\n' := by
  by_cases control : isControl c = true
  · simp [needsEscape, isPlain, control, imp_iff_not_or]
  · simp [needsEscape, isPlain, control]

section Literal
variable {long : Bool} (rest : List Char)

theorem literalRest_plain {c : Char} (noQuote : c ≠ '\'') (plain : isPlain c = true) :
    literalRest long (c :: rest) = prepend c (literalRest long rest) := by
  obtain ⟨noNewline, noReturn⟩ := not_line_of_isPlain plain
  rw [literalRest]
  simp [noQuote, noNewline, noReturn, plain]

theorem literalRest_newline : literalRest true ('\n' :: rest) = prepend '\n' (literalRest true rest) := by
  rw [literalRest]
  simp

theorem literalRest_closed {closed : List Char × List Char} (ends : closing? '\'' ('\'' :: rest) = some closed) :
    literalRest true ('\'' :: rest) = some closed := by
  rw [literalRest]
  simp [ends]

theorem literalRest_open (goesOn : closing? '\'' ('\'' :: rest) = none) :
    literalRest true ('\'' :: rest) = prepend '\'' (literalRest true rest) := by
  rw [literalRest]
  simp [goesOn]

theorem literalRest_short : literalRest false ('\'' :: rest) = some ([], rest) := by
  rw [literalRest]
  simp

end Literal

theorem literalRest_short_of_plain {cs : List Char} (plain : ∀ c ∈ cs, isPlain c = true ∧ c ≠ '\'') (tail : List Char) :
    literalRest false (cs ++ '\'' :: tail) = some (cs, tail) := by
  induction cs with
  | nil => exact literalRest_short tail
  | cons c cs ih =>
    obtain ⟨⟨visible, noQuote⟩, others⟩ := List.forall_mem_cons.1 plain
    rw [List.cons_append, literalRest_plain _ noQuote visible, ih others]
    rfl

theorem longestRun_cons_of_ne {quote c : Char} {run most : ℕ} {cs : List Char} (other : c ≠ quote)
    (within : longestRun quote run (c :: cs) ≤ most) : run ≤ most ∧ longestRun quote 0 cs ≤ most := by
  rw [longestRun, if_neg other] at within
  exact Nat.max_le.1 within

theorem le_longestRun (quote : Char) (run : ℕ) (cs : List Char) : run ≤ longestRun quote run cs := by
  induction cs generalizing run with
  | nil => exact Nat.le_refl run
  | cons c cs ih =>
    rw [longestRun]
    split_ifs
    · exact Nat.le_trans (Nat.le_succ run) (ih (run + 1))
    · exact Nat.le_max_left run _

theorem not_mem_of_longestRun {quote : Char} {cs : List Char} (never : longestRun quote 0 cs = 0) : quote ∉ cs := by
  induction cs with
  | nil => exact List.not_mem_nil
  | cons c cs ih =>
    by_cases same : c = quote
    case pos =>
      rw [longestRun, if_pos same] at never
      exact absurd (le_longestRun quote (0 + 1) cs) (by omega)
    case neg =>
      obtain ⟨-, after⟩ := longestRun_cons_of_ne same (Nat.le_of_eq never)
      rw [List.mem_cons, not_or]
      exact ⟨Ne.symm same, ih (Nat.le_zero.1 after)⟩

section LongLiteral
variable {tail : List Char} (clear : tail.head? ≠ some '\'')
include clear

theorem closing?_of_longestRun {run : ℕ} {cs : List Char} (few : longestRun '\'' (run + 1) cs ≤ 2) :
    closing? '\'' ('\'' :: (cs ++ '\'' :: '\'' :: '\'' :: tail)) = none ∨
      closing? '\'' ('\'' :: (cs ++ '\'' :: '\'' :: '\'' :: tail)) = some ('\'' :: cs, tail) := by
  cases cs with
  | nil => exact .inr (closing?_four clear)
  | cons d cs =>
    by_cases quote : d = '\''
    case neg => exact .inl (closing?_one quote _)
    case pos =>
      subst quote
      rw [longestRun, if_pos rfl] at few
      cases cs with
      | nil => exact .inr closing?_five
      | cons e cs =>
        have other : e ≠ '\'' := by
          rintro rfl
          rw [longestRun, if_pos rfl] at few
          have three := le_longestRun '\'' (run + 1 + 1 + 1) cs
          omega
        exact .inl (closing?_two other _)

theorem literalRest_long_of_longestRun {cs : List Char} {run : ℕ} (few : longestRun '\'' run cs ≤ 2)
    (plain : ∀ c ∈ cs, needsEscape c = false) :
    literalRest true (cs ++ '\'' :: '\'' :: '\'' :: tail) = some (cs, tail) := by
  induction cs generalizing run with
  | nil => exact literalRest_closed _ (closing?_three clear)
  | cons c cs ih =>
    obtain ⟨visible, others⟩ := List.forall_mem_cons.1 plain
    rw [List.cons_append]
    by_cases quote : c = '\''
    case pos =>
      subst quote
      rw [longestRun, if_pos rfl] at few
      rcases closing?_of_longestRun clear few with goesOn | ends
      · rw [literalRest_open _ goesOn, ih few others]
        rfl
      · exact literalRest_closed _ ends
    case neg =>
      obtain ⟨-, after⟩ := longestRun_cons_of_ne quote few
      rcases not_needsEscape_iff.1 visible with visible | rfl
      · rw [literalRest_plain _ quote visible, ih after others]
        rfl
      · rw [literalRest_newline, ih after others]
        rfl

end LongLiteral

end ReplicaAtlas.Toml
