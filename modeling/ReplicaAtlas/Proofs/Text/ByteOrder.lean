import Mathlib.Data.List.Basic
import ReplicaAtlas.Table
import ReplicaAtlas.Text.Utf8

/-!
Texts are in the order of their bytes in UTF-8. A greater character has a greater lead byte, or the same one
and then greater digits, so the first character in which two texts differ settles the order of their bytes.
-/
namespace ReplicaAtlas.Text.Utf8

def bytes (text : String) : List UInt8 := text.toUTF8.data.toList

theorem bytes_eq_encode (text : String) : bytes text = encode text.toList := by
  have encoded : text.toList.utf8Encode = text.toByteArray := String.utf8Encode_toList
  rw [bytes, String.toUTF8, ← encoded, List.utf8Encode, List.toList_data_toByteArray, encode]

private theorem scalar_toNat_lt (c : Char) : c.val.toNat < 0x110000 := by
  have valid : c.val.toNat.isValidChar := c.valid
  simp only [Nat.isValidChar] at valid
  omega

private theorem byte_toNat (n : Nat) (bound : n < 256) : (UInt8.ofNat n).toNat = n := by
  rw [UInt8.toNat_ofNat']
  exact Nat.mod_eq_of_lt bound

/-- Numbers are in the order of their digits of six bits below a head of any size. -/
private theorem digits_lt {m n : Nat} (less : m < n) :
    m / 262144 < n / 262144 ∨ m / 262144 = n / 262144 ∧
      (m / 4096 % 64 < n / 4096 % 64 ∨ m / 4096 % 64 = n / 4096 % 64 ∧
        (m / 64 % 64 < n / 64 % 64 ∨ m / 64 % 64 = n / 64 % 64 ∧ m % 64 < n % 64)) := by
  rcases Nat.lt_trichotomy (m / 262144) (n / 262144) with heads | heads | heads
  · exact .inl heads
  · refine .inr ⟨heads, ?_⟩
    rcases Nat.lt_trichotomy (m / 4096) (n / 4096) with digits | digits | digits
    · omega
    · omega
    · omega
  · omega

theorem utf8EncodeChar_lt {c d : Char} (less : c < d) (rest others : List UInt8) :
    String.utf8EncodeChar c ++ rest < String.utf8EncodeChar d ++ others := by
  have values : c.val.toNat < d.val.toNat := less
  have boundC := scalar_toNat_lt c
  have boundD := scalar_toNat_lt d
  have digits := digits_lt values
  unfold String.utf8EncodeChar
  generalize c.val.toNat = m at *
  generalize d.val.toNat = n at *
  simp only
  -- One case for each pair of lengths; with different lengths the lead bytes differ.
  split_ifs <;>
    simp (disch := omega) only [List.cons_append, List.nil_append, List.cons_lt_cons_iff,
      UInt8.lt_iff_toNat_lt, ← UInt8.toNat_inj, byte_toNat, Nat.mod_eq_of_lt] <;>
    omega

theorem encode_cons (c : Char) (cs : List Char) : encode (c :: cs) = String.utf8EncodeChar c ++ encode cs :=
  List.flatMap_cons

theorem encode_lt {cs ds : List Char} (less : cs < ds) : encode cs < encode ds := by
  induction cs generalizing ds with
  | nil =>
    cases ds with
    | nil => exact absurd less (List.lt_irrefl _)
    | cons d ds =>
      rw [encode_cons]
      cases form : String.utf8EncodeChar d with
      | nil => exact absurd form String.utf8EncodeChar_ne_nil
      | cons b bs => exact List.nil_lt_cons b _
  | cons c cs ih =>
    cases ds with
    | nil => exact absurd less (List.not_lt_nil _)
    | cons d ds =>
      rw [encode_cons, encode_cons]
      rcases List.cons_lt_cons_iff.1 less with smaller | ⟨rfl, tails⟩
      · exact utf8EncodeChar_lt smaller _ _
      · exact List.append_left_lt (ih tails)

theorem bytes_lt_iff {s t : String} : bytes s < bytes t ↔ s < t := by
  rw [bytes_eq_encode, bytes_eq_encode]
  constructor
  · intro encoded
    by_contra notLess
    rcases eq_or_ne s t with rfl | distinct
    · exact List.lt_irrefl _ encoded
    · have greater : t < s := Entries.lt_of_not_lt_of_ne notLess distinct
      exact List.lt_asymm (encode_lt greater) encoded
  · exact encode_lt

end ReplicaAtlas.Text.Utf8
