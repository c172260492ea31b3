import ReplicaAtlas.Proofs.Number.Order

/-!
Floats that are 32-bit words. A float reads as a word just where the word is its exact value, so nothing that is
negative, too large or not whole is wrapped or rounded to one.
-/
namespace ReplicaAtlas.Binary64

open Float.Model Float.Model.UnpackedFloat

theorem roundToInt_positive (m : ℕ) (q : ℤ) : roundToInt .positive m q = (⌊(m : ℚ) * 2 ^ q⌋₊ : ℤ) := by
  rcases le_or_gt 0 q with whole | split
  · obtain ⟨k, rfl⟩ := Int.eq_ofNat_of_zero_le whole
    have value : (m : ℚ) * 2 ^ (k : ℤ) = ((m <<< k : ℕ) : ℚ) := by
      rw [Nat.shiftLeft_eq, zpow_natCast, Nat.cast_mul, Nat.cast_pow, Nat.cast_two]
    rw [value, Nat.floor_natCast]
    simp [roundToInt, decreaseExponent, shiftToExponent, mantissa_shiftRight, mantissa_ofMantissaAndAccuracy,
      Sign.apply]
  · obtain ⟨k, rfl⟩ := Int.exists_eq_neg_ofNat split.le
    have value : (m : ℚ) * 2 ^ (-(k : ℤ)) = (m : ℚ) / ((2 ^ k : ℕ) : ℚ) := by
      rw [zpow_neg, zpow_natCast, div_eq_mul_inv, Nat.cast_pow, Nat.cast_two]
    rw [value, Nat.floor_div_eq_div]
    simp [roundToInt, decreaseExponent, shiftToExponent, mantissa_shiftRight, mantissa_ofMantissaAndAccuracy,
      Sign.apply]

section
variable {x : Float} {u : ℚ} (value : value? x = some u)
include value

theorem toNat_toInt (natural : 0 ≤ u) (lowest highest : ℤ) :
    ((unpacked x).toInt lowest highest).toNat = ⌊u⌋₊ := by
  rcases unpacked_of_value? value with ⟨s, parts, rfl⟩ | ⟨s, m, q, positive, parts, rfl⟩
  · rw [parts, Nat.floor_zero]
    rfl
  · rw [parts]
    cases s with
    | negative =>
      rw [value_negative] at natural
      exact absurd natural (not_le.2 (neg_neg_of_pos (magnitude_pos q positive)))
    | positive => rw [UnpackedFloat.toInt, roundToInt_positive, Int.toNat_natCast, value_positive]

theorem toNat_toUInt32_floor (natural : 0 ≤ u) (bounded : u < 2 ^ 32) : x.toUInt32.toNat = ⌊u⌋₊ := by
  have few : ⌊u⌋₊ < UInt32.size := (Nat.floor_lt natural).2 (by exact_mod_cast bounded)
  change (UInt32.ofNatClamp ((unpacked x).toInt 0 (UInt32.size - 1)).toNat).toNat = _
  rw [toNat_toInt value natural, UInt32.ofNatClamp, dif_pos few]
  rfl

theorem toNat_toUInt64_floor (natural : 0 ≤ u) (bounded : u < 2 ^ 64) : x.toUInt64.toNat = ⌊u⌋₊ := by
  have few : ⌊u⌋₊ < UInt64.size := (Nat.floor_lt natural).2 (by exact_mod_cast bounded)
  change (UInt64.ofNatClamp ((unpacked x).toInt 0 (UInt64.size - 1)).toNat).toNat = _
  rw [toNat_toInt value natural, UInt64.ofNatClamp, dif_pos few]
  rfl

end

theorem value?_zero : value? 0.0 = some 0 := by
  rw [← valueOf?_unpacked]
  rfl

theorem value?_limit : value? 4503599627370496.0 = some (2 ^ 52) := by
  have parts : unpacked 4503599627370496.0 = .finite .positive 4503599627370496 0 (by decide) := rfl
  rw [← valueOf?_unpacked, parts, valueOf?, value_positive]
  norm_num

theorem value?_most : value? (UInt32.toFloat 4294967295) = some 4294967295 := by
  have parts : unpacked (UInt32.toFloat 4294967295) = .finite .positive 9007199252643840 (-21) (by decide) := rfl
  rw [← valueOf?_unpacked, parts, valueOf?, value_positive]
  norm_num

/-- Below 2^52 the fraction is what the whole number below leaves. -/
theorem fraction_beq_zero_iff {x : Float} {u : ℚ} (value : value? x = some u) (natural : 0 ≤ u)
    (bounded : u < 2 ^ 52) : (fraction x == 0.0) = true ↔ u = ⌊u⌋₊ := by
  have whole := toNat_toUInt64_floor value natural (by linarith)
  have few : ⌊u⌋₊ < 2 ^ 52 := (Nat.floor_lt natural).2 (by exact_mod_cast bounded)
  have wholeValue := value?_toFloat x.toUInt64 (by omega)
  rw [whole] at wholeValue
  rw [fraction, if_pos ((lt_iff value value?_limit).2 bounded), beq_zero_iff, sub_isZero_iff value wholeValue]

theorem word?_eq_some_iff (x : Float) (c : UInt32) : word? x = some c ↔ value? x = some (c.toNat : ℚ) := by
  rw [word?, Option.ite_none_right_eq_some, Bool.and_eq_true, Bool.and_eq_true, decide_eq_true_iff, decide_eq_true_iff,
    Option.some_inj]
  constructor
  · rintro ⟨⟨⟨above, whole⟩, below⟩, rfl⟩
    obtain ⟨u, value⟩ := exists_value value?_zero value?_most above below
    have natural := (le_iff value?_zero value).1 above
    have bounded := (le_iff value value?_most).1 below
    rw [toNat_toUInt32_floor value natural (by linarith),
      ← (fraction_beq_zero_iff value natural (by linarith)).1 whole, value]
  · intro value
    have fits : (c.toNat : ℚ) ≤ 4294967295 := by exact_mod_cast Nat.le_of_lt_succ c.toNat_lt
    have natural : (0 : ℚ) ≤ c.toNat := Nat.cast_nonneg _
    have whole := (fraction_beq_zero_iff value natural (by linarith)).2 (by rw [Nat.floor_natCast])
    refine ⟨⟨⟨(le_iff value?_zero value).2 natural, whole⟩, (le_iff value value?_most).2 fits⟩, ?_⟩
    rw [← UInt32.toNat_inj, toNat_toUInt32_floor value natural (by linarith), Nat.floor_natCast]

/-- From one on the exponent leaves room for a product. -/
theorem unpacked_of_one_le {x : Float} {u : ℚ} (value : value? x = some u) (large : 1 ≤ u) :
    ∃ m q positive, unpacked x = .finite .positive m q positive ∧ -53 < q := by
  rcases unpacked_of_value? value with ⟨s, parts, rfl⟩ | ⟨s, m, q, positive, parts, rfl⟩
  · exact absurd large (by norm_num)
  · cases s with
    | negative =>
      rw [value_negative] at large
      have some := magnitude_pos q positive
      linarith
    | positive =>
      refine ⟨m, q, positive, parts, ?_⟩
      by_contra fine
      -- At exponents from -53 down, every number is below 2^52 · 2^-52.
      have less := magnitude_lt (bounds_of_unpacked parts).1 le_rfl (Int.lt_add_one_of_le (not_lt.1 fine))
      rw [value_positive] at large
      norm_num at less
      linarith

theorem signed_mul {m n : ℕ} {q r : ℤ} (some : 0 < m) (some' : 0 < n) (least : -1074 ≤ q + r) :
    Signed .positive (repack (UnpackedFloat.mul Format.binary64 (.finite .positive m q some)
      (.finite .positive n r some'))) :=
  signed_roundWithAccuracy .positive (Nat.mul_pos some some') least .exact

theorem signed_ofNat {n : ℕ} (some : 0 < n) : Signed .positive (unpacked (Float.ofNat n)) := by
  change Signed .positive (unpacked (Float.ofScientific n false 0))
  -- Short numbers become floats as words do and are multiplied by one, long ones are rounded at once.
  by_cases short : n < 2 ^ 53 ∧ 0 ≤ 22
  · rw [Float.ofScientific, dif_pos short]
    have one : unpacked Float.exactlyRepresentablePowersOfTen[0] =
      .finite .positive 4503599627370496 (-52) (by decide) := rfl
    have word : n.toUInt64.toNat = n := Nat.mod_eq_of_lt (by omega)
    have value := value?_toFloat n.toUInt64 (by omega)
    rw [word] at value
    obtain ⟨m, q, positive, parts, coarse⟩ := unpacked_of_one_le value (by exact_mod_cast some)
    change Signed .positive (repack (UnpackedFloat.mul Format.binary64 (unpacked n.toUInt64.toFloat)
      (unpacked Float.exactlyRepresentablePowersOfTen[0])))
    rw [parts, one]
    exact signed_mul positive (by decide) (by omega)
  · rw [Float.ofScientific, dif_neg short]
    change Signed .positive (repack (UnpackedFloat.ofScientific Format.binary64 n 0))
    have near : ¬ (0 : ℤ) < -((2 ^ 11 : ℤ) + n.log2) := by omega
    rw [UnpackedFloat.ofScientific, dif_neg some.ne', if_neg (by decide), if_neg near, if_pos le_rfl]
    exact signed_mul _ _ (by decide)

theorem signed_neg {x : Float} (signed : Signed .positive (unpacked x)) :
    Signed .negative (unpacked (Float.neg x)) := by
  have canonical := canonical_unpacked x
  change Signed .negative (repack (UnpackedFloat.neg (unpacked x)))
  generalize unpacked x = u at signed canonical
  cases signed with
  | infinity => exact .infinity
  | finite positive =>
    cases canonical with
    | finite _ _ bounded least most full => exact signed_repack_finite .negative positive bounded least

theorem not_zero_le_ofInt {n : ℤ} (negative : n < 0) : ¬ 0.0 ≤ Float.ofInt n := by
  obtain ⟨k, rfl⟩ := Int.eq_negSucc_of_lt_zero negative
  have zero : unpacked 0.0 = .zero .positive := rfl
  have signed : Signed .negative (unpacked (Float.ofInt (.negSucc k))) := signed_neg (signed_ofNat k.succ_pos)
  rw [le_iff_isLE, zero]
  generalize unpacked (Float.ofInt (.negSucc k)) = u at signed
  cases signed <;> simp [UnpackedFloat.compare]

end ReplicaAtlas.Binary64
