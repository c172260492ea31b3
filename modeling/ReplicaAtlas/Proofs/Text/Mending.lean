import Mathlib.Data.Nat.Notation
import ReplicaAtlas.Text.Utf8

/-!
Bytes of a text are mended to that text, so replacements stand only for what is no text. A character's lead byte tells
how many bytes are still to come, and each of those lies within the bounds for it.
-/
namespace ReplicaAtlas.Text.Utf8

theorem start_one {b : ℕ} (ascii : b < 0x80) : start b = ([Char.ofNat b], none) := if_pos ascii

theorem start_two {b : ℕ} (least : 0xC2 ≤ b) (most : b ≤ 0xDF) : start b = ([], some ⟨1, 0x80, 0xBF, b - 0xC0⟩) := by
  rw [start, if_neg (by omega), if_pos (by simp [least, most])]

theorem start_three {b : ℕ} (least : 0xE0 ≤ b) (most : b ≤ 0xEF) : start b =
    ([], some ⟨2, if b = 0xE0 then 0xA0 else 0x80, if b = 0xED then 0x9F else 0xBF, b - 0xE0⟩) := by
  rw [start, if_neg (by omega), if_neg (by simp; omega), if_pos (by simp [least, most])]

theorem start_four {b : ℕ} (least : 0xF0 ≤ b) (most : b ≤ 0xF4) : start b =
    ([], some ⟨3, if b = 0xF0 then 0x90 else 0x80, if b = 0xF4 then 0x8F else 0xBF, b - 0xF0⟩) := by
  rw [start, if_neg (by omega), if_neg (by simp; omega), if_neg (by simp; omega), if_pos (by simp [least, most])]

section
variable {b low high value : ℕ} {rest : List UInt8} (byte : b < 256) (least : low ≤ b) (most : b ≤ high)
include byte least most

theorem mendFrom_last :
    mendFrom (some ⟨1, low, high, value⟩) (UInt8.ofNat b :: rest) = Char.ofNat (64 * value + (b - 0x80)) ::
      mendFrom none rest := by
  rw [mendFrom, UInt8.toNat_ofNat_of_lt' byte, if_pos (by simp [least, most])]
  rfl

theorem mendFrom_next {left : ℕ} :
    mendFrom (some ⟨left + 2, low, high, value⟩) (UInt8.ofNat b :: rest) =
      mendFrom (some ⟨left + 1, 0x80, 0xBF, 64 * value + (b - 0x80)⟩) rest := by
  rw [mendFrom, UInt8.toNat_ofNat_of_lt' byte, if_pos (by simp [least, most])]
  rfl

end

theorem mendFrom_start {b : ℕ} (byte : b < 256) {pending : Option Pending} {cs : List Char}
    (starts : start b = (cs, pending)) (rest : List UInt8) :
    mendFrom none (UInt8.ofNat b :: rest) = cs ++ mendFrom pending rest := by
  rw [mendFrom, UInt8.toNat_ofNat_of_lt' byte, starts]

theorem mendFrom_utf8EncodeChar (c : Char) (rest : List UInt8) :
    mendFrom none (String.utf8EncodeChar c ++ rest) = c :: mendFrom none rest := by
  have valid : c.val.toNat < 0xD800 ∨ 0xDFFF < c.val.toNat ∧ c.val.toNat < 0x110000 := c.valid
  have char {n : ℕ} (same : n = c.val.toNat) : Char.ofNat n = c := same ▸ Char.ofNat_toNat c
  unfold String.utf8EncodeChar
  generalize c.val.toNat = v at *
  dsimp only
  split
  case isTrue one =>
    rw [List.singleton_append, mendFrom_start (by omega) (start_one (by omega)), char rfl]
    rfl
  case isFalse beyondOne =>
    split
    case isTrue two =>
      simp only [List.cons_append, List.nil_append]
      rw [mendFrom_start (by omega) (start_two (by omega) (by omega)), List.nil_append,
        mendFrom_last (by omega) (by omega) (by omega), char (by omega)]
    case isFalse beyondTwo =>
      split
      case isTrue three =>
        simp only [List.cons_append, List.nil_append]
        rw [mendFrom_start (by omega) (start_three (by omega) (by omega)), List.nil_append,
          mendFrom_next (by omega) (by split <;> omega) (by split <;> omega),
          mendFrom_last (by omega) (by omega) (by omega), char (by omega)]
      case isFalse beyondThree =>
        simp only [List.cons_append, List.nil_append]
        rw [mendFrom_start (by omega) (start_four (by omega) (by omega)), List.nil_append,
          mendFrom_next (by omega) (by split <;> omega) (by split <;> omega),
          mendFrom_next (by omega) (by omega) (by omega), mendFrom_last (by omega) (by omega) (by omega),
          char (by omega)]

theorem mend_encode (text : String) : mend (encode text.toList) = text := by
  have chars (cs : List Char) : mendFrom none (encode cs) = cs := by
    induction cs with
    | nil => rfl
    | cons c cs ih => rw [encode, List.flatMap_cons, mendFrom_utf8EncodeChar, ← encode, ih]
  rw [mend, chars, String.ofList_toList]

end ReplicaAtlas.Text.Utf8
