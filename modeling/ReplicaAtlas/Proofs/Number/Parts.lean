import Mathlib
import ReplicaAtlas.Number.Binary64

/-!
What a float is, by its parts. Unpacked, a float is what its sign, exponent and fraction fields say, and its exact
value is read off either. Packing a number that is not too fine for a float and unpacking it again gives it back, or
an infinity of the same sign; it never gives a zero.
-/
namespace ReplicaAtlas.Binary64

open Float.Model Float.Model.UnpackedFloat

def sign (x : Float) : Sign := if isNegative x then .negative else .positive

def value? (x : Float) : Option ℚ := (magnitude? x).map fun (m, q) => ((sign x).apply m : ℤ) * 2 ^ q

def unpacked (x : Float) : UnpackedFloat := x.toModel.unpack

def ofFields (s : Sign) (exponent fraction : ℕ) : UnpackedFloat :=
  if exponent = 2047 then if fraction = 0 then .infinity s else .notANumber
  else if exponent = 0 then if h : fraction = 0 then .zero s else .finite s fraction (-1074) (Nat.pos_of_ne_zero h)
  else .finite s (fraction + 2 ^ 52) (exponent - 1075) (Nat.add_pos_right _ (by decide))

theorem toNat_cons_one {w : ℕ} (fraction : BitVec w) : (1#1 ++ fraction).toNat = fraction.toNat + 2 ^ w := by
  rw [BitVec.toNat_append, ← Nat.shiftLeft_add_eq_or_of_lt fraction.isLt, Nat.shiftLeft_eq, Nat.add_comm]
  simp

theorem unpack_eq_ofFields (bits : BitVec 64) :
    UnpackedFloat.unpack Format.binary64 bits =
      ofFields (Sign.ofBitVec (@unpackSign Format.binary64 bits))
        (@unpackExponent Format.binary64 bits).toNat
        (@unpackMantissa Format.binary64 bits).toNat := by
  have greatest (exponent : BitVec 11) : exponent = -1#11 ↔ exponent.toNat = 2047 := BitVec.toNat_inj.symm
  have least (exponent : BitVec 11) : exponent = 0#11 ↔ exponent.toNat = 0 := BitVec.toNat_inj.symm
  have none (fraction : BitVec 52) : fraction = 0#52 ↔ fraction.toNat = 0 := BitVec.toNat_inj.symm
  simp only [UnpackedFloat.unpack, ofFields, greatest, least, none, toNat_cons_one]
  split_ifs with top infinite bottom
  case pos => rfl
  case neg => rfl
  case pos => rfl
  case neg =>
    congr 1
    rw [bottom]
    rfl
  case neg => rfl

theorem ofBitVec_unpackSign (bits : UInt64) :
    Sign.ofBitVec (@unpackSign Format.binary64 bits.toBitVec) =
      if Nat.pow 2 63 ≤ bits.toNat then .negative else .positive := by
  have bit : (@unpackSign Format.binary64 bits.toBitVec).toNat = bits.toNat >>> 63 % 2 := rfl
  have positive : @unpackSign Format.binary64 bits.toBitVec = 0#1 ↔ ¬ Nat.pow 2 63 ≤ bits.toNat := by
    have few := bits.toNat_lt
    rw [← BitVec.toNat_inj, bit, Nat.shiftRight_eq_div_pow]
    change _ = 0 ↔ ¬ 2 ^ 63 ≤ bits.toNat
    omega
  simp only [Sign.ofBitVec, positive, ite_not]

theorem unpacked_eq_ofFields (x : Float) : unpacked x = ofFields (sign x) (exponentField x) (fractionField x) := by
  have exponent : (@unpackExponent Format.binary64 x.toBits.toBitVec).toNat = exponentField x := by
    change (x.toBits.toNat >>> 52) % 2 ^ 11 = _
    rw [Nat.shiftRight_eq_div_pow]
    rfl
  have fraction : (@unpackMantissa Format.binary64 x.toBits.toBitVec).toNat = fractionField x := rfl
  have signed := ofBitVec_unpackSign x.toBits
  change UnpackedFloat.unpack Format.binary64 x.toBits.toBitVec = _
  rw [unpack_eq_ofFields, exponent, fraction, signed, sign, isNegative]
  simp only [decide_eq_true_eq]

/-- As unpacked floats are: the mantissa is full, except at the least exponent. -/
inductive Canonical : UnpackedFloat → Prop
  | notANumber : Canonical .notANumber
  | infinity (s : Sign) : Canonical (.infinity s)
  | zero (s : Sign) : Canonical (.zero s)
  | finite (s : Sign) {m : ℕ} {q : ℤ} (positive : 0 < m) (bounded : m < 2 ^ 53) (least : -1074 ≤ q) (most : q ≤ 971)
      (full : 2 ^ 52 ≤ m ∨ q = -1074) : Canonical (.finite s m q positive)

def valueOf? : UnpackedFloat → Option ℚ
  | .notANumber => none
  | .infinity _ => none
  | .zero _ => some 0
  | .finite s m q _ => some ((s.apply m : ℤ) * 2 ^ q)

theorem exponentField_lt (x : Float) : exponentField x < 2048 := Nat.mod_lt _ (by decide)

theorem fractionField_lt (x : Float) : fractionField x < 2 ^ 52 := Nat.mod_lt _ (by decide)

theorem canonical_unpacked (x : Float) : Canonical (unpacked x) := by
  have exponents := exponentField_lt x
  have fractions := fractionField_lt x
  rw [unpacked_eq_ofFields, ofFields]
  split_ifs with top infinite bottom none
  case pos => exact .infinity _
  case neg => exact .notANumber
  case pos => exact .zero _
  case neg => exact .finite _ _ (by omega) (by omega) (by omega) (.inr rfl)
  case neg => exact .finite _ _ (by omega) (by omega) (by omega) (.inl (by omega))

theorem bounds_of_unpacked {x : Float} {s : Sign} {m : ℕ} {q : ℤ} {positive : 0 < m}
    (parts : unpacked x = .finite s m q positive) : m < 2 ^ 53 ∧ -1074 ≤ q ∧ (2 ^ 52 ≤ m ∨ q = -1074) := by
  have canonical := canonical_unpacked x
  rw [parts] at canonical
  cases canonical with
  | finite _ _ bounded least most full => exact ⟨bounded, least, full⟩

theorem valueOf?_unpacked (x : Float) : valueOf? (unpacked x) = value? x := by
  rw [unpacked_eq_ofFields, ofFields, value?, magnitude?]
  split_ifs with top infinite bottom none
  case pos => rfl
  case neg => rfl
  case pos =>
    rw [none, Option.map_some]
    cases sign x <;> simp [valueOf?, Sign.apply]
  case neg => rfl
  case neg => rfl

theorem unpack_packComponents (s : Sign) (exponent : BitVec 11) (fraction : BitVec 52) :
    UnpackedFloat.unpack Format.binary64 (packComponents Format.binary64 s exponent fraction) =
      ofFields s exponent.toNat fraction.toNat := by
  rw [unpack_eq_ofFields, unpackExponent_packComponents, unpackMantissa_packComponents, unpackSign_packComponents,
    Sign.ofBitVec_toBitVec]

def repack (u : UnpackedFloat) : UnpackedFloat := (Float.Model.pack u).unpack

theorem repack_finite (s : Sign) {m : ℕ} {q : ℤ} (positive : 0 < m) (bounded : m < 2 ^ 53) (least : -1074 ≤ q) :
    repack (.finite s m q positive) =
      if 971 < q then .infinity s else .finite s m (if 2 ^ 52 ≤ m then q else -1074) positive := by
  have biased : q + Format.binary64.exponentBias + Format.binary64.mantissaBitsWithoutImplicit = q + 1075 :=
    Int.add_assoc q 1023 52
  have far : 2 ^ 11 ≤ (q + 1075).toNat + 1 ↔ 971 < q := by omega
  have full : m.log2 + 1 = Format.binary64.mantissaBits ↔ 2 ^ 52 ≤ m := by
    rw [← Nat.le_log2 positive.ne']
    have := (Nat.log2_lt positive.ne').2 bounded
    change m.log2 + 1 = 53 ↔ _
    omega
  change UnpackedFloat.unpack Format.binary64 (UnpackedFloat.pack Format.binary64 _) = _
  simp only [UnpackedFloat.pack, biased, far, full]
  split_ifs with huge normal
  · exact unpack_packComponents s (-1#11) 0#52
  · have exponent : (q + 1075).toNat % 2 ^ 11 = (q + 1075).toNat := Nat.mod_eq_of_lt (by omega)
    rw [unpack_packComponents, BitVec.toNat_ofNat, BitVec.toNat_ofNat, exponent, ofFields, if_neg (by omega),
      if_neg (by omega)]
    congr 1
    · omega
    · omega
  · have fraction : m % 2 ^ 52 = m := Nat.mod_eq_of_lt (by omega)
    rw [unpack_packComponents, BitVec.toNat_ofNat, BitVec.toNat_ofNat]
    change ofFields s 0 (m % 2 ^ 52) = _
    rw [fraction, ofFields, if_neg (by decide), if_pos rfl, dif_neg positive.ne']

theorem repack_canonical {u : UnpackedFloat} (canonical : Canonical u) : repack u = u := by
  cases canonical with
  | notANumber => rfl
  | infinity s => cases s <;> rfl
  | zero s => cases s <;> rfl
  | finite s positive bounded least most full =>
    rw [repack_finite s positive bounded least, if_neg (by omega)]
    split_ifs with normal
    · rfl
    · rw [full.resolve_left normal]

inductive Signed (s : Sign) : UnpackedFloat → Prop
  | infinity : Signed s (.infinity s)
  | finite {m : ℕ} {q : ℤ} (positive : 0 < m) : Signed s (.finite s m q positive)

theorem signed_repack_finite (s : Sign) {m : ℕ} {q : ℤ} (positive : 0 < m) (bounded : m < 2 ^ 53)
    (least : -1074 ≤ q) : Signed s (repack (.finite s m q positive)) := by
  rw [repack_finite s positive bounded least]
  split_ifs
  · exact .infinity
  · exact .finite positive
  · exact .finite positive

end ReplicaAtlas.Binary64
