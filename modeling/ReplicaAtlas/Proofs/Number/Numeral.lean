import Mathlib.Algebra.Group.Nat.Defs
import Mathlib.Data.List.Basic
import ReplicaAtlas.Number.Numeral

/-!
What numerals are: an optional plus sign and at least one digit. A longer numeral is no smaller.
-/
namespace ReplicaAtlas.Numeral

theorem isDigit_iff {c : Char} : isDigit c = true ↔ 48 ≤ c.toNat ∧ c.toNat ≤ 57 := by
  rw [isDigit, Bool.and_eq_true, decide_eq_true_iff, decide_eq_true_iff]
  exact Iff.rfl

def Signed (digits cs : List Char) : Prop := cs = digits ∨ cs = '+' :: digits

theorem natural?_eq_some_iff {cs : List Char} {n : Nat} :
    natural? cs = some n ↔ cs ≠ [] ∧ (∀ c ∈ cs, isDigit c = true) ∧ value cs = n := by
  rw [natural?]
  split
  case isTrue refused =>
    refine iff_of_false nofun ?_
    rintro ⟨some, digits, -⟩
    simp only [Bool.or_eq_true, List.isEmpty_iff, Bool.not_eq_true', List.all_eq_false] at refused
    rcases refused with none | ⟨c, member, other⟩
    · exact some none
    · exact other (digits c member)
  case isFalse accepted =>
    simp only [Bool.or_eq_true, List.isEmpty_iff, Bool.not_eq_true', not_or, Bool.not_eq_false,
      List.all_eq_true] at accepted
    obtain ⟨some, digits⟩ := accepted
    exact ⟨fun total => ⟨some, digits, Option.some.inj total⟩, fun numeral => congrArg Option.some numeral.2.2⟩

def Spells (n : Nat) (cs : List Char) : Prop :=
  ∃ digits, Signed digits cs ∧ digits ≠ [] ∧ (∀ c ∈ digits, isDigit c = true) ∧ value digits = n

theorem bounded?_eq_some_iff {bits n : Nat} {cs : List Char} :
    bounded? bits cs = some n ↔ Spells n cs ∧ n < 2 ^ bits := by
  unfold bounded?
  simp only [Option.filter_eq_some_iff, natural?_eq_some_iff, decide_eq_true_eq]
  refine and_congr_left fun _ => ?_
  split
  case h_1 rest =>
    constructor
    · intro numeral
      exact ⟨rest, .inr rfl, numeral⟩
    · rintro ⟨digits, unsigned | signed, numeral⟩
      · have plus := numeral.2.1 '+' (unsigned ▸ List.mem_cons_self)
        exact absurd plus (by decide)
      · cases signed
        exact numeral
  case h_2 unsigned =>
    constructor
    · intro numeral
      exact ⟨cs, .inl rfl, numeral⟩
    · rintro ⟨digits, rfl | signed, numeral⟩
      · exact numeral
      · exact absurd signed (unsigned digits)

namespace Spells
variable {n : Nat} {cs : List Char} (spells : Spells n cs)
include spells

theorem plus_or_digit {c : Char} (member : c ∈ cs) : c = '+' ∨ isDigit c = true := by
  obtain ⟨digits, rfl | rfl, -, all, -⟩ := spells
  · exact .inr (all c member)
  · rcases List.mem_cons.1 member with plus | member
    · exact .inl plus
    · exact .inr (all c member)

theorem value_filter : value (cs.filter isDigit) = n := by
  obtain ⟨digits, rfl | rfl, -, all, total⟩ := spells
  · rw [List.filter_eq_self.2 all, total]
  · rw [List.filter_cons_of_neg (by decide), List.filter_eq_self.2 all, total]

end Spells

def valueAfter (n : Nat) (digits : List Char) : Nat := digits.foldl (fun n c => 10 * n + digitValue c) n

theorem le_valueAfter (n : Nat) (digits : List Char) : n ≤ valueAfter n digits := by
  induction digits generalizing n with
  | nil => exact Nat.le_refl n
  | cons c rest ih =>
    have further := ih (10 * n + digitValue c)
    rw [valueAfter] at further ⊢
    rw [List.foldl_cons]
    omega

end ReplicaAtlas.Numeral
