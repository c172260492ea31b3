import ReplicaAtlas.Duration.Checked
import ReplicaAtlas.Proofs.Number.Numeral
import ReplicaAtlas.Proofs.Success
import ReplicaAtlas.Proofs.Text.Blank

/-!
Which texts are durations. A duration is a numeral with the mark of a unit directly behind it, and blanks around both.
The marks overlap, but what stands before a mark is a numeral without any letter, so a text has one unit and one value.
On machine words the same durations are read, and no step leaves its word.
-/
namespace ReplicaAtlas

open Text Numeral

inductive DurationUnit where
  | milliseconds
  | seconds
  | minutes
  | unmarked
  deriving DecidableEq

namespace DurationUnit

def mark : DurationUnit → List Char
  | milliseconds => ['m', 's']
  | seconds => ['s']
  | minutes => ['m']
  | unmarked => []

def size : DurationUnit → Nat
  | milliseconds => 1
  | seconds => 1000
  | minutes => 60000
  | unmarked => 1000

def duration (unit : DurationUnit) (n : Nat) : Duration := ⟨unit.size * n⟩

/-- The numeral fits a word of 64 bits, and so do the seconds that minutes come to. -/
def Fits (unit : DurationUnit) (n : Nat) : Prop := n < 2 ^ 64 ∧ (unit = .minutes → 60 * n < 2 ^ 64)

def isLetter (c : Char) : Bool := c = 'm' || c = 's'

theorem mark_injective {unit other : DurationUnit} (same : unit.mark = other.mark) : unit = other := by
  revert same
  cases unit <;> cases other <;> decide

theorem filter_mark (unit : DurationUnit) : unit.mark.filter isLetter = unit.mark ∧ unit.mark.filter isDigit = [] := by
  cases unit <;> decide

end DurationUnit

namespace Duration

/-- The text is a numeral of the value with the mark of the unit behind it, and blanks around both. -/
def Written (unit : DurationUnit) (n : Nat) (text : String) : Prop :=
  ∃ before number after, text.toList = before ++ (number ++ unit.mark) ++ after ∧ Spells n number ∧
    (∀ c ∈ before, isBlank c = true) ∧ ∀ c ∈ after, isBlank c = true

structure FollowsGrammar (text : String) : Prop where
  accepted : ∀ d, parse? text = some d ↔ ∃ unit n, Written unit n text ∧ unit.Fits n ∧ d = unit.duration n
  unambiguous : ∀ unit other n m, Written unit n text → Written other m text → unit = other ∧ n = m
  onWords : WordDuration.parse? text = .ok ((parse? text).map toWords)
  exact : ∀ d, parse? text = some d →
    d.toWords.seconds.toNat = d.seconds ∧ d.toWords.nanoseconds.toNat = d.nanoseconds ∧ d.nanoseconds < 10 ^ 9

theorem plain_of_isBlank {c : Char} (blank : isBlank c = true) :
    isDigit c = false ∧ DurationUnit.isLetter c = false ∧ c ≠ '+' := by
  refine ⟨Bool.eq_false_iff.2 fun digit => ?_, Bool.eq_false_iff.2 fun letter => ?_, ?_⟩
  · rw [isDigit_iff] at digit
    simp only [isBlank, Bool.or_eq_true, Bool.and_eq_true, decide_eq_true_eq, beq_iff_eq] at blank
    omega
  · simp only [DurationUnit.isLetter, Bool.or_eq_true, decide_eq_true_eq] at letter
    rcases letter with rfl | rfl <;> exact absurd blank (by decide)
  · rintro rfl
    exact absurd blank (by decide)

theorem not_isLetter_of_spells {n : Nat} {number : List Char} (spells : Spells n number) {c : Char}
    (member : c ∈ number) : DurationUnit.isLetter c = false := by
  refine Bool.eq_false_iff.2 fun letter => ?_
  simp only [DurationUnit.isLetter, Bool.or_eq_true, decide_eq_true_eq] at letter
  rcases spells.plus_or_digit member with rfl | digit
  · revert letter
    decide
  · rcases letter with rfl | rfl <;> exact absurd digit (by decide)

/-- The letters of a written duration are its mark, and the digits its value. -/
theorem Written.parts {unit : DurationUnit} {n : Nat} {text : String} (written : Written unit n text) :
    text.toList.filter DurationUnit.isLetter = unit.mark ∧ value (text.toList.filter isDigit) = n := by
  obtain ⟨before, number, after, form, spells, blank, blankAfter⟩ := written
  obtain ⟨letters, digits⟩ := unit.filter_mark
  have noLetters (cs : List Char) (plain : ∀ c ∈ cs, DurationUnit.isLetter c = false) :
      cs.filter DurationUnit.isLetter = [] := List.filter_eq_nil_iff.2 fun c member => by simp [plain c member]
  have noDigits (cs : List Char) (plain : ∀ c ∈ cs, isBlank c = true) : cs.filter isDigit = [] :=
    List.filter_eq_nil_iff.2 fun c member => by simp [plain_of_isBlank (plain c member)]
  constructor
  · rw [form, List.filter_append, List.filter_append, List.filter_append, letters,
      noLetters before fun c member => (plain_of_isBlank (blank c member)).2.1,
      noLetters number fun c member => not_isLetter_of_spells spells member,
      noLetters after fun c member => (plain_of_isBlank (blankAfter c member)).2.1, List.append_nil]
    rfl
  · rw [form, List.filter_append, List.filter_append, List.filter_append, digits, noDigits before blank,
      noDigits after blankAfter, List.append_nil, List.append_nil]
    exact spells.value_filter

theorem Written.unique {unit other : DurationUnit} {n m : Nat} {text : String} (written : Written unit n text)
    (again : Written other m text) : unit = other ∧ n = m := by
  obtain ⟨mark, total⟩ := written.parts
  obtain ⟨otherMark, otherTotal⟩ := again.parts
  exact ⟨DurationUnit.mark_injective (mark.symm.trans otherMark), total.symm.trans otherTotal⟩

theorem written_of_trim {unit : DurationUnit} {n : Nat} {text : String} {number : List Char}
    (trimmed : trim text.toList = number ++ unit.mark) (spells : Spells n number) : Written unit n text := by
  obtain ⟨before, after, form, blank, blankAfter⟩ := exists_trim text.toList
  exact ⟨before, number, after, trimmed ▸ form, spells, blank, blankAfter⟩

theorem Written.trim {unit : DurationUnit} {n : Nat} {text : String} (written : Written unit n text) :
    ∃ number, Text.trim text.toList = number ++ unit.mark ∧ Spells n number := by
  obtain ⟨before, number, after, form, spells, blank, blankAfter⟩ := written
  refine ⟨number, ?_, spells⟩
  rw [form]
  refine trim_framed blank (fun c member => Bool.eq_false_iff.2 fun isBlank => ?_) blankAfter
  obtain ⟨noDigit, noLetter, noPlus⟩ := plain_of_isBlank isBlank
  rcases List.mem_append.1 member with member | member
  · rcases spells.plus_or_digit member with plus | digit
    · exact noPlus plus
    · exact absurd digit (by simp [noDigit])
  · rw [← unit.filter_mark.1, List.mem_filter, noLetter] at member
    exact absurd member.2 Bool.false_ne_true

section
variable {unit : DurationUnit} {n : Nat} {text : String} {number : List Char} (spells : Spells n number)
include spells

/-- Behind a number, which has no letters, an ending of letters is an ending of the mark. -/
theorem suffix_of_dropEnding? {ending rest : List Char} (letters : ending.filter DurationUnit.isLetter = ending)
    (ends : dropEnding? ending (number ++ unit.mark) = some rest) : ending <:+ unit.mark := by
  have split := congrArg (List.filter DurationUnit.isLetter) (dropEnding?_eq_some_iff.1 ends)
  have plain : number.filter DurationUnit.isLetter = [] :=
    List.filter_eq_nil_iff.2 fun c member => by simp [not_isLetter_of_spells spells member]
  rw [List.filter_append, List.filter_append, plain, unit.filter_mark.1, letters] at split
  exact ⟨_, split.symm⟩

theorem parse?_of_trim (trimmed : trim text.toList = number ++ unit.mark) (fits : unit.Fits n) :
    parse? text = some (unit.duration n) := by
  have read : bounded? 64 number = some n := bounded?_eq_some_iff.2 ⟨spells, fits.1⟩
  have own (ending : List Char) (same : ending = unit.mark) : dropEnding? ending (number ++ unit.mark) = some number :=
    dropEnding?_eq_some_iff.2 (same ▸ rfl)
  have other {ending : List Char} (letters : ending.filter DurationUnit.isLetter = ending)
      (foreign : ¬ ending <:+ unit.mark) : dropEnding? ending (number ++ unit.mark) = none :=
    Option.eq_none_iff_forall_ne_some.2 fun _ ends => foreign (suffix_of_dropEnding? spells letters ends)
  rw [parse?, trimmed]
  cases unit with
  | milliseconds =>
    rw [own ['m', 's'] rfl]
    dsimp only
    rw [read, Option.map_some, DurationUnit.duration, DurationUnit.size, Nat.one_mul]
  | seconds =>
    rw [other (by decide) (by decide), own ['s'] rfl]
    dsimp only
    rw [read]
    rfl
  | minutes =>
    have minutes : 60 * n < Nat.pow 2 64 := fits.2 rfl
    rw [other (by decide) (by decide), other (by decide) (by decide), own ['m'] rfl]
    dsimp only
    rw [read, Option.filter_some, if_pos (decide_eq_true minutes), Option.map_some, ofSeconds, ← Nat.mul_assoc]
    rfl
  | unmarked =>
    rw [other (by decide) (by decide), other (by decide) (by decide), other (by decide) (by decide)]
    dsimp only
    rw [DurationUnit.mark, List.append_nil, read]
    rfl

end

theorem written_of_parse? {text : String} {d : Duration} (read : parse? text = some d) :
    ∃ unit n, Written unit n text ∧ unit.Fits n ∧ d = unit.duration n := by
  unfold parse? at read
  dsimp only at read
  split at read
  case h_1 number ends =>
    obtain ⟨n, numeral, rfl⟩ := Option.map_eq_some_iff.1 read
    obtain ⟨spells, fits⟩ := bounded?_eq_some_iff.1 numeral
    refine ⟨.milliseconds, n, written_of_trim (dropEnding?_eq_some_iff.1 ends) spells, ⟨fits, nofun⟩, ?_⟩
    rw [DurationUnit.duration, DurationUnit.size, Nat.one_mul]
  case h_2 =>
    split at read
    case h_1 number ends =>
      obtain ⟨n, numeral, rfl⟩ := Option.map_eq_some_iff.1 read
      obtain ⟨spells, fits⟩ := bounded?_eq_some_iff.1 numeral
      exact ⟨.seconds, n, written_of_trim (dropEnding?_eq_some_iff.1 ends) spells, ⟨fits, nofun⟩, rfl⟩
    case h_2 =>
      split at read
      case h_1 number ends =>
        obtain ⟨n, numeral, rfl⟩ := Option.map_eq_some_iff.1 read
        obtain ⟨numeral, minutes⟩ := Option.filter_eq_some_iff.1 numeral
        obtain ⟨spells, fits⟩ := bounded?_eq_some_iff.1 numeral
        refine ⟨.minutes, n, written_of_trim (dropEnding?_eq_some_iff.1 ends) spells,
          ⟨fits, fun _ => of_decide_eq_true minutes⟩, ?_⟩
        rw [ofSeconds, ← Nat.mul_assoc]
        rfl
      case h_2 =>
        obtain ⟨n, numeral, rfl⟩ := Option.map_eq_some_iff.1 read
        obtain ⟨spells, fits⟩ := bounded?_eq_some_iff.1 numeral
        exact ⟨.unmarked, n, written_of_trim (List.append_nil _).symm spells, ⟨fits, nofun⟩, rfl⟩

theorem parse?_eq_some_iff {text : String} {d : Duration} :
    parse? text = some d ↔ ∃ unit n, Written unit n text ∧ unit.Fits n ∧ d = unit.duration n := by
  refine ⟨written_of_parse?, ?_⟩
  rintro ⟨unit, n, written, fits, rfl⟩
  obtain ⟨number, trimmed, spells⟩ := written.trim
  exact parse?_of_trim spells trimmed fits

end Duration

namespace WordDuration

theorem toOption_ofNat (n : Nat) : (Wide.ofNat n).toOption = if n < 2 ^ 64 then some n.toUInt64 else none := by
  change (if n < 2 ^ 64 then Except.ok n.toUInt64 else Except.error ArithmeticFault.overflow).toOption = _
  split <;> rfl

/-- One more digit is taken on if the value that it makes fits the word. -/
theorem digits?_cons {n : UInt64} {c : Char} (digit : isDigit c = true) (rest : List Char) :
    digits? n (c :: rest) =
      if 10 * n.toNat + digitValue c < 2 ^ 64 then digits? (10 * n.toNat + digitValue c).toUInt64 rest else none := by
  have small : digitValue c < 2 ^ 64 := by
    have bounds := isDigit_iff.1 digit
    have zero : '0'.toNat = 48 := rfl
    rw [digitValue, zero]
    omega
  rw [digits?, Wide.mul, toOption_ofNat, show (10 : UInt64).toNat = 10 from rfl]
  by_cases tenfold : n.toNat * 10 < 2 ^ 64
  · rw [if_pos tenfold, Option.bind_eq_bind, Option.bind_some, Wide.add, toOption_ofNat, Wide.toNat_toUInt64 tenfold,
      Wide.toNat_toUInt64 small, Nat.mul_comm n.toNat 10]
    split <;> rfl
  · rw [if_neg tenfold, if_neg (by omega)]
    rfl

theorem digits?_eq {n : UInt64} {digits : List Char} (all : ∀ c ∈ digits, isDigit c = true) :
    digits? n digits =
      if valueAfter n.toNat digits < 2 ^ 64 then some (valueAfter n.toNat digits).toUInt64 else none := by
  induction digits generalizing n with
  | nil =>
    rw [digits?, valueAfter, List.foldl_nil, if_pos n.toNat_lt]
    exact congrArg some UInt64.ofNat_toNat.symm
  | cons c rest ih =>
    have others : ∀ d ∈ rest, isDigit d = true := fun d member => all d (List.mem_cons_of_mem _ member)
    have value : valueAfter n.toNat (c :: rest) = valueAfter (10 * n.toNat + digitValue c) rest := rfl
    rw [digits?_cons (all c List.mem_cons_self), value]
    split
    case isTrue fits => rw [ih others, Wide.toNat_toUInt64 fits]
    case isFalse beyond =>
      have more := le_valueAfter (10 * n.toNat + digitValue c) rest
      rw [if_neg (by omega)]

theorem digits?_zero (digits : List Char) : (if digits.isEmpty || !digits.all isDigit then none else digits? 0 digits) =
    ((natural? digits).filter (· < Nat.pow 2 64)).map Nat.toUInt64 := by
  rw [natural?]
  split
  case isTrue => rfl
  case isFalse accepted =>
    simp only [Bool.or_eq_true, Bool.not_eq_true', not_or, Bool.not_eq_false, List.all_eq_true] at accepted
    have total : valueAfter (0 : UInt64).toNat digits = value digits := rfl
    rw [digits?_eq accepted.2, total, Option.filter_some]
    by_cases fits : value digits < 2 ^ 64
    · have word : value digits < Nat.pow 2 64 := fits
      rw [if_pos fits, if_pos (decide_eq_true word), Option.map_some]
    · have beyond : ¬value digits < Nat.pow 2 64 := fits
      rw [if_neg fits, if_neg (mt of_decide_eq_true beyond)]
      rfl

theorem bounded?_eq (bits : Nat) (cs : List Char) :
    bounded? bits cs = (natural? (unsigned cs)).filter (· < Nat.pow 2 bits) := by
  unfold bounded?
  split
  case h_1 rest => rfl
  case h_2 other => rw [unsigned.eq_2 cs other]

theorem numeral?_eq (cs : List Char) : numeral? cs = (bounded? 64 cs).map Nat.toUInt64 := by
  rw [bounded?_eq]
  exact digits?_zero (unsigned cs)

theorem ofSeconds_eq (n : Nat) : ofSeconds n.toUInt64 = (Duration.ofSeconds n).toWords := by
  rw [Duration.toWords, Duration.seconds, Duration.nanoseconds, Duration.ofSeconds,
    Nat.mul_div_cancel_left n (by decide), Nat.mul_mod_right]
  rfl

theorem ofMilliseconds_ok {n : Nat} (fits : n < 2 ^ 64) : ofMilliseconds n.toUInt64 = .ok (Duration.mk n).toWords := by
  have left : (n.toUInt64 % 1000).toNat = n % 1000 := by
    rw [UInt64.toNat_mod, Wide.toNat_toUInt64 fits]
    rfl
  have narrow : Wide.narrow (n.toUInt64 % 1000) = .ok (n % 1000).toUInt32 := by
    rw [Wide.narrow, left, Word.ofNat_ok (by omega)]
  have product : Word.mul (n % 1000).toUInt32 1000000 = .ok (n % 1000 * 1000000).toUInt32 := by
    have factor : (1000000 : UInt32).toNat = 1000000 := rfl
    rw [Word.mul, Word.toNat_toUInt32 (by omega), factor, Word.ofNat_ok (by omega)]
  have whole : n.toUInt64 / 1000 = (n / 1000).toUInt64 := by
    apply UInt64.toNat_inj.1
    rw [UInt64.toNat_div, Wide.toNat_toUInt64 fits, Wide.toNat_toUInt64 (by omega)]
    rfl
  have words : (Duration.mk n).toWords = ⟨(n / 1000).toUInt64, (n % 1000 * 1000000).toUInt32⟩ := rfl
  unfold ofMilliseconds
  refine bind_ok_iff.2 ⟨_, Wide.div_ok (by decide), ?_⟩
  refine bind_ok_iff.2 ⟨_, Wide.mod_ok (by decide), ?_⟩
  refine bind_ok_iff.2 ⟨_, narrow, bind_ok_iff.2 ⟨_, product, ?_⟩⟩
  rw [whole, words]
  rfl

theorem ofMinutes?_eq {n : Nat} (fits : n < 2 ^ 64) : ofMinutes? n.toUInt64 =
    if 60 * n < 2 ^ 64 then some (Duration.ofSeconds (60 * n)).toWords else none := by
  have factor : (60 : UInt64).toNat = 60 := rfl
  rw [ofMinutes?, Wide.mul, toOption_ofNat, Wide.toNat_toUInt64 fits, factor, Nat.mul_comm n 60]
  split
  case isTrue => exact congrArg some (ofSeconds_eq (60 * n))
  case isFalse => rfl

theorem map_ofSeconds (cs : List Char) : (numeral? cs).map ofSeconds =
    ((bounded? 64 cs).map Duration.ofSeconds).map Duration.toWords := by
  rw [numeral?_eq, Option.map_map, Option.map_map]
  exact congrArg (Option.map · _) (funext ofSeconds_eq)

theorem mapM_ofMilliseconds (cs : List Char) : (numeral? cs).mapM ofMilliseconds =
    .ok (((bounded? 64 cs).map Duration.mk).map Duration.toWords) := by
  rw [numeral?_eq]
  cases read : bounded? 64 cs with
  | none => rfl
  | some n =>
    change (ofMilliseconds n.toUInt64).map some = _
    rw [ofMilliseconds_ok (bounded?_eq_some_iff.1 read).2]
    rfl

theorem bind_ofMinutes? (cs : List Char) : (numeral? cs).bind ofMinutes? =
    (((bounded? 64 cs).filter (60 * · < Nat.pow 2 64)).map fun n => Duration.ofSeconds (60 * n)).map
      Duration.toWords := by
  rw [numeral?_eq]
  cases read : bounded? 64 cs with
  | none => rfl
  | some n =>
    rw [Option.map_some, Option.bind_some, ofMinutes?_eq (bounded?_eq_some_iff.1 read).2, Option.filter_some]
    by_cases minutes : 60 * n < 2 ^ 64
    · have word : 60 * n < Nat.pow 2 64 := minutes
      rw [if_pos minutes, if_pos (decide_eq_true word)]
      rfl
    · have beyond : ¬60 * n < Nat.pow 2 64 := minutes
      rw [if_neg minutes, if_neg (mt of_decide_eq_true beyond)]
      rfl

/-- On machine words no step goes wrong, and the same durations are read. -/
theorem parse?_ok (text : String) : parse? text = .ok ((Duration.parse? text).map Duration.toWords) := by
  rw [parse?, Duration.parse?]
  cases dropEnding? ['m', 's'] (trim text.toList) with
  | some number => exact mapM_ofMilliseconds number
  | none =>
    cases dropEnding? ['s'] (trim text.toList) with
    | some number => exact congrArg Except.ok (map_ofSeconds number)
    | none =>
      cases dropEnding? ['m'] (trim text.toList) with
      | some number => exact congrArg Except.ok (bind_ofMinutes? number)
      | none => exact congrArg Except.ok (map_ofSeconds (trim text.toList))

end WordDuration

namespace Duration

theorem nanoseconds_lt (d : Duration) : d.nanoseconds < 10 ^ 9 := by
  have below := Nat.mod_lt d.milliseconds (by decide : 0 < 1000)
  rw [nanoseconds]
  omega

theorem seconds_lt_of_fits {unit : DurationUnit} {n : Nat} (fits : unit.Fits n) :
    (unit.duration n).seconds < 2 ^ 64 := by
  obtain ⟨word, minutes⟩ := fits
  cases unit with
  | milliseconds =>
    change 1 * n / 1000 < 2 ^ 64
    omega
  | minutes =>
    have wordOfSeconds := minutes rfl
    change 60000 * n / 1000 < 2 ^ 64
    omega
  | seconds | unmarked =>
    change 1000 * n / 1000 < 2 ^ 64
    omega

theorem toWords_exact {text : String} {d : Duration} (read : parse? text = some d) :
    d.toWords.seconds.toNat = d.seconds ∧ d.toWords.nanoseconds.toNat = d.nanoseconds ∧ d.nanoseconds < 10 ^ 9 := by
  obtain ⟨unit, n, -, fits, rfl⟩ := written_of_parse? read
  have few := nanoseconds_lt (unit.duration n)
  exact ⟨Wide.toNat_toUInt64 (seconds_lt_of_fits fits), Word.toNat_toUInt32 (by omega), few⟩

/-- A text is read as a duration just if it is written as one, in one way only, and never beyond machine words. -/
theorem durations_follow_grammar (text : String) : FollowsGrammar text where
  accepted _ := parse?_eq_some_iff
  unambiguous _ _ _ _ := Written.unique
  onWords := WordDuration.parse?_ok text
  exact _ := toWords_exact

/-- One more minute, and there are more seconds than a word holds. -/
example : parse? " +307445734561825860m " = some (.ofSeconds 18446744073709551600) ∧
    parse? "307445734561825861m" = none := by
  decide +kernel

end Duration

end ReplicaAtlas
