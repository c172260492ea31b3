import ReplicaAtlas.Proofs.Text.ByteOrder
import ReplicaAtlas.Proofs.Text.Mending
import ReplicaAtlas.Proofs.Text.Percent

/-!
Texts in percent encoding. They are made up of unreserved characters and of codes, each of a percent sign and two
capital hexadecimal digits. Each byte is decoded from its own code or character, so the text comes back, and a text of
unreserved characters is its own encoding.
-/
namespace ReplicaAtlas.Text.Percent
open Numeral

def isCapitalHex (c : Char) : Bool := isDigit c || ('A' ≤ c && c ≤ 'F')

inductive Escaped : List Char → Prop where
  | nil : Escaped []
  | plain {c : Char} {rest : List Char} (unreserved : isUnreserved c = true) (others : Escaped rest) :
      Escaped (c :: rest)
  | code {high low : Char} {rest : List Char} (first : isCapitalHex high = true) (second : isCapitalHex low = true)
      (others : Escaped rest) : Escaped ('%' :: high :: low :: rest)

theorem isCapitalHex_upperHexDigit : ∀ n < 16, isCapitalHex (upperHexDigit n) = true := by decide

theorem not_isUnreserved_percent : isUnreserved '%' = false := by decide

theorem ascii_of_isAlphanum {c : Char} (alphanum : c.isAlphanum = true) : c.toNat < 128 := by
  have below {high : UInt32} (most : c.val ≤ high) (ascii : high.toNat < 128) : c.toNat < 128 :=
    Nat.lt_of_le_of_lt (UInt32.le_iff_toNat_le.1 most) ascii
  rcases Bool.or_eq_true_iff.1 alphanum with letter | digit
  · rcases Bool.or_eq_true_iff.1 letter with upper | lower
    · exact below (of_decide_eq_true upper).2 (by decide)
    · exact below (of_decide_eq_true (Bool.and_eq_true_iff.1 lower).2) (by decide)
  · exact below (of_decide_eq_true (Bool.and_eq_true_iff.1 digit).2) (by decide)

theorem ascii_of_isUnreserved {c : Char} (unreserved : isUnreserved c = true) : c.toNat < 128 := by
  simp only [isUnreserved, Bool.or_eq_true, decide_eq_true_eq] at unreserved
  rcases unreserved with (((alphanum | rfl) | rfl) | rfl) | rfl
  · exact ascii_of_isAlphanum alphanum
  all_goals decide

theorem utf8EncodeChar_of_ascii {c : Char} (ascii : c.toNat < 128) :
    String.utf8EncodeChar c = [UInt8.ofNat c.toNat] := by
  have most : c.val.toNat ≤ 127 := Nat.le_of_lt_succ ascii
  exact if_pos most

theorem encodeByte_of_unreserved {b : UInt8} (unreserved : isUnreserved (Char.ofNat b.toNat) = true) :
    encodeByte b = [Char.ofNat b.toNat] := if_pos unreserved

theorem encodeByte_of_reserved {b : UInt8} (reserved : isUnreserved (Char.ofNat b.toNat) = false) :
    encodeByte b = ['%', upperHexDigit (b.toNat / 16), upperHexDigit (b.toNat % 16)] :=
  if_neg (Bool.eq_false_iff.1 reserved)

theorem toNat_ofNat_byte (b : UInt8) : (Char.ofNat b.toNat).toNat = b.toNat := by
  have small : b.toNat < 256 := b.toNat_lt
  have valid : b.toNat.isValidChar := .inl (by omega)
  rw [Char.ofNat, dif_pos valid]
  rfl

theorem escaped_encodeByte (b : UInt8) {rest : List Char} (others : Escaped rest) : Escaped (encodeByte b ++ rest) := by
  have small : b.toNat < 256 := b.toNat_lt
  cases unreserved : isUnreserved (Char.ofNat b.toNat) with
  | true =>
    rw [encodeByte_of_unreserved unreserved]
    exact .plain unreserved others
  | false =>
    rw [encodeByte_of_reserved unreserved]
    exact .code (isCapitalHex_upperHexDigit _ (by omega)) (isCapitalHex_upperHexDigit _ (by omega)) others

theorem escaped_encode (text : String) : Escaped (encode text) := by
  rw [encode]
  induction Utf8.encode text.toList with
  | nil => exact .nil
  | cons b bytes ih => exact escaped_encodeByte b ih

theorem decode_cons {c : Char} (plain : c ≠ '%') (rest : List Char) :
    decode (c :: rest) = String.utf8EncodeChar c ++ decode rest := by
  rw [decode]
  intro a b others percent
  exact absurd percent plain

/-- One byte is decoded from its encoding, whatever follows. -/
theorem decode_encodeByte (b : UInt8) (rest : List Char) : decode (encodeByte b ++ rest) = b :: decode rest := by
  have small : b.toNat < 256 := b.toNat_lt
  cases unreserved : isUnreserved (Char.ofNat b.toNat) with
  | true =>
    have plain : Char.ofNat b.toNat ≠ '%' := by
      intro same
      rw [same, not_isUnreserved_percent] at unreserved
      cases unreserved
    rw [encodeByte_of_unreserved unreserved, List.singleton_append, decode_cons plain,
      utf8EncodeChar_of_ascii (ascii_of_isUnreserved unreserved), toNat_ofNat_byte, UInt8.ofNat_toNat]
    rfl
  | false =>
    rw [encodeByte_of_reserved unreserved]
    simp only [List.cons_append, List.nil_append]
    rw [decode, hexValue?_upperHexDigit _ (by omega), hexValue?_upperHexDigit _ (by omega)]
    have whole : 16 * (b.toNat / 16) + b.toNat % 16 = b.toNat := Nat.div_add_mod ..
    dsimp only
    rw [whole]
    exact congrArg (· :: decode rest) UInt8.ofNat_toNat

theorem decode_encode_append (text : String) (rest : List Char) :
    decode (encode text ++ rest) = Utf8.encode text.toList ++ decode rest := by
  rw [encode]
  induction Utf8.encode text.toList with
  | nil => rfl
  | cons b bytes ih => rw [List.flatMap_cons, List.append_assoc, decode_encodeByte, ih, List.cons_append]

theorem decode_encode (text : String) : decode (encode text) = Utf8.encode text.toList := by
  have whole := decode_encode_append text []
  rw [List.append_nil, decode, List.append_nil] at whole
  exact whole

theorem encode_injective {text other : String} (same : encode text = encode other) : text = other := by
  have bytes := congrArg decode same
  rw [decode_encode, decode_encode] at bytes
  rw [← Utf8.mend_encode text, bytes, Utf8.mend_encode]

theorem encode_of_unreserved {text : String} (unreserved : ∀ c ∈ text.toList, isUnreserved c = true) :
    encode text = text.toList := by
  rw [encode, Utf8.encode]
  generalize text.toList = cs at unreserved
  induction cs with
  | nil => rfl
  | cons c rest ih =>
    have here := unreserved c List.mem_cons_self
    have ascii := ascii_of_isUnreserved here
    have char : Char.ofNat (UInt8.ofNat c.toNat).toNat = c := by
      rw [UInt8.toNat_ofNat_of_lt' (Nat.lt_trans ascii (by decide)), Char.ofNat_toNat]
    have single : encodeByte (UInt8.ofNat c.toNat) = [c] := by
      rw [encodeByte_of_unreserved (char.symm ▸ here), char]
    rw [List.flatMap_cons, utf8EncodeChar_of_ascii ascii, List.singleton_append, List.flatMap_cons, single,
      ih fun d member => unreserved d (List.mem_cons_of_mem _ member)]
    rfl

end ReplicaAtlas.Text.Percent
