import ReplicaAtlas.Proofs.Number.Parts

/-!
Rounding to a float. A number that is not zero and not below the finest floats is never rounded to zero, so a
difference of floats is zero just where they are equal. Parts that are canonical are left as they are, so whole
numbers up to 2^53 become floats exactly.
-/
namespace ReplicaAtlas.Binary64

open Float.Model Float.Model.UnpackedFloat

theorem mantissa_shiftRight (k : ℕ) (m : ExtendedMantissa) : (m >>> k).mantissa = m.mantissa / 2 ^ k := by
  change (k.repeat ExtendedMantissa.shiftRightOne m).mantissa = _
  induction k with
  | zero => exact (Nat.div_one _).symm
  | succ k ih =>
    rw [pow_succ, ← Nat.div_div_eq_div_mul, ← ih]
    rfl

theorem mantissa_ofMantissaAndAccuracy (m : ℕ) (accuracy : Accuracy) :
    (ExtendedMantissa.ofMantissaAndAccuracy m accuracy).mantissa = m := by
  rcases accuracy with _ | _ | _ | _ <;> rfl

theorem le_roundToNearestEven (m : ℕ) (accuracy : Accuracy) : m ≤ accuracy.roundToNearestEven m := by
  rcases accuracy with _ | _ | _ | _
  · exact le_rfl
  · exact le_rfl
  · exact Nat.le_add_right ..
  · exact Nat.le_add_right ..

theorem targetExponent_eq (m : ℕ) (q : ℤ) :
    Format.binary64.targetExponent (totalExponent m q) = max (m.log2 + q - 52) (-1074) := by
  change max (m.log2 + 1 + q - 53) (-1074) = _
  congr 1
  omega

/-- Above the least exponent the shift depends on the mantissa alone. -/
theorem shiftToTargetExponent_eq (m : ℕ) {q : ℤ} (least : -1074 ≤ q) (accuracy : Accuracy) :
    shiftToTargetExponent Format.binary64 m q accuracy =
      (ExtendedMantissa.ofMantissaAndAccuracy m accuracy >>> (m.log2 - 52), q + (m.log2 - 52 : ℕ)) := by
  have shift : (Format.binary64.targetExponent (totalExponent m q) - q).toNat = m.log2 - 52 := by
    rw [targetExponent_eq]
    omega
  rw [shiftToTargetExponent, shiftToExponent, shift]

theorem shifted_bounds {m : ℕ} (positive : 0 < m) : 0 < m / 2 ^ (m.log2 - 52) ∧ m / 2 ^ (m.log2 - 52) < 2 ^ 53 := by
  have lower := Nat.log2_self_le positive.ne'
  have upper := Nat.lt_log2_self (n := m)
  constructor
  · exact Nat.div_pos (le_trans (Nat.pow_le_pow_right (by decide) (Nat.sub_le ..)) lower) (Nat.two_pow_pos _)
  · rw [Nat.div_lt_iff_lt_mul (Nat.two_pow_pos _), ← pow_add]
    exact lt_of_lt_of_le upper (Nat.pow_le_pow_right (by decide) (by omega))

theorem signed_roundWithAccuracy (s : Sign) {m : ℕ} {q : ℤ} (positive : 0 < m) (least : -1074 ≤ q)
    (accuracy : Accuracy) : Signed s (repack (roundWithAccuracy Format.binary64 s m q accuracy)) := by
  obtain ⟨rounded, rounds⟩ : ∃ rounded,
      (ExtendedMantissa.ofMantissaAndAccuracy m accuracy >>> (m.log2 - 52)).roundedMantissa = rounded := ⟨_, rfl⟩
  have some : 0 < rounded := by
    rw [← rounds, ExtendedMantissa.roundedMantissa, mantissa_shiftRight, mantissa_ofMantissaAndAccuracy]
    exact lt_of_lt_of_le (shifted_bounds positive).1 (le_roundToNearestEven _ _)
  have leastRounded : -1074 ≤ q + (m.log2 - 52 : ℕ) := by omega
  have someShifted := shifted_bounds some
  -- The mantissa is shifted, rounded, and shifted again where rounding has made it too long.
  simp only [roundWithAccuracy, shiftToTargetExponent_eq m least accuracy, rounds,
    shiftToTargetExponent_eq rounded leastRounded .exact, mantissa_shiftRight, mantissa_ofMantissaAndAccuracy]
  rw [dif_neg someShifted.1.ne']
  exact signed_repack_finite s someShifted.1 someShifted.2 (by omega)

theorem signed_round (s : Sign) {m : ℕ} {q : ℤ} (positive : 0 < m) (least : -1074 ≤ q) :
    Signed s (repack (UnpackedFloat.round Format.binary64 s m q)) := by
  refine signed_roundWithAccuracy s ?_ ?_ .exact
  · exact Nat.shiftLeft_eq .. ▸ Nat.mul_pos positive (Nat.two_pow_pos _)
  · rw [targetExponent_eq]
    omega

theorem roundWithAccuracy_exact (s : Sign) {m : ℕ} {q : ℤ} (positive : 0 < m) (bounded : m < 2 ^ 53)
    (least : -1074 ≤ q) : roundWithAccuracy Format.binary64 s m q .exact = .finite s m q positive := by
  have short : m.log2 - 52 = 0 := Nat.sub_eq_zero_of_le (Nat.lt_succ_iff.1 ((Nat.log2_lt positive.ne').2 bounded))
  have shift := shiftToTargetExponent_eq m least .exact
  rw [short, Nat.cast_zero, add_zero] at shift
  have rounded : (ExtendedMantissa.ofMantissaAndAccuracy m .exact >>> 0).roundedMantissa = m := rfl
  simp only [roundWithAccuracy, shift, rounded]
  exact dif_neg positive.ne'

/-- Whole numbers of up to 53 bits are shifted to the left, and nothing of them is rounded off. -/
theorem valueOf?_round_natural {n : ℕ} (positive : 0 < n) (bounded : n < 2 ^ 53) :
    valueOf? (repack (UnpackedFloat.round Format.binary64 .positive n 0)) = some (n : ℚ) := by
  have short : n.log2 ≤ 52 := Nat.lt_succ_iff.1 ((Nat.log2_lt positive.ne').2 bounded)
  obtain ⟨k, total⟩ := Nat.exists_eq_add_of_le short
  have shift : (0 - Format.binary64.targetExponent (totalExponent n 0)).toNat = k := by
    rw [targetExponent_eq]
    omega
  have mantissa : n <<< k = n * 2 ^ k := Nat.shiftLeft_eq ..
  have lower : 2 ^ 52 ≤ n <<< k := by
    rw [mantissa, total, pow_add]
    exact Nat.mul_le_mul_right _ (Nat.log2_self_le positive.ne')
  have upper : n <<< k < 2 ^ 53 := by
    have succ : 53 = n.log2 + 1 + k := by omega
    rw [mantissa, succ, pow_add]
    exact Nat.mul_lt_mul_of_pos_right Nat.lt_log2_self (Nat.two_pow_pos _)
  have some : 0 < n <<< k := by omega
  have canonical : Canonical (.finite .positive (n <<< k) (0 - k) some) :=
    .finite _ _ upper (by omega) (by omega) (.inl lower)
  simp only [UnpackedFloat.round, decreaseExponent, shift]
  rw [roundWithAccuracy_exact .positive some upper (by omega), repack_canonical canonical, valueOf?, mantissa]
  simp [Sign.apply]

theorem value?_toFloat (n : UInt64) (bounded : n.toNat ≤ 2 ^ 53) : value? n.toFloat = some (n.toNat : ℚ) := by
  rw [← valueOf?_unpacked]
  change valueOf? (repack (UnpackedFloat.normalize Format.binary64 n.toNat 0 .positive)) = _
  rcases Nat.eq_zero_or_pos n.toNat with none | positive
  · rw [none]
    rfl
  · have greater : compare (n.toNat : ℤ) 0 = .gt := Int.compare_eq_gt.2 (Int.natCast_pos.2 positive)
    rcases Nat.lt_or_eq_of_le bounded with fewer | all
    · simp only [UnpackedFloat.normalize, greater, Int.toNat_natCast]
      exact valueOf?_round_natural positive fewer
    · have last : repack (UnpackedFloat.normalize Format.binary64 ((2 ^ 53 : ℕ) : ℤ) 0 .positive) =
          .finite .positive (2 ^ 52) 1 (by decide) := rfl
      rw [all, last, valueOf?]
      norm_num [Sign.apply]

theorem Signed.ne_zero {s : Sign} {u : UnpackedFloat} (signed : Signed s u) (zeroSign : Sign) :
    u ≠ .zero zeroSign := by
  rintro rfl
  cases signed

theorem repack_normalize_isZero_iff (m : ℤ) {q : ℤ} (least : -1074 ≤ q) (zeroSign : Sign) :
    (∃ s, repack (UnpackedFloat.normalize Format.binary64 m q zeroSign) = .zero s) ↔ m = 0 := by
  rcases lt_trichotomy m 0 with negative | rfl | positive
  · have signed := signed_round .negative (Int.pos_iff_toNat_pos.1 (neg_pos.2 negative)) least
    simp only [UnpackedFloat.normalize, Int.compare_eq_lt.2 negative, negative.ne, iff_false, not_exists]
    exact signed.ne_zero
  · simp only [UnpackedFloat.normalize, Int.compare_eq_eq.2 rfl, iff_true]
    exact ⟨zeroSign, repack_canonical (.zero zeroSign)⟩
  · have signed := signed_round .positive (Int.pos_iff_toNat_pos.1 positive) least
    simp only [UnpackedFloat.normalize, Int.compare_eq_gt.2 positive, positive.ne', iff_false, not_exists]
    exact signed.ne_zero

theorem unpacked_of_value? {x : Float} {u : ℚ} (value : value? x = some u) :
    (∃ s, unpacked x = .zero s ∧ u = 0) ∨
      ∃ s m q positive, unpacked x = .finite s m q positive ∧ u = (s.apply m : ℤ) * 2 ^ q := by
  rw [← valueOf?_unpacked] at value
  cases parts : unpacked x with
  | notANumber => simp [parts, valueOf?] at value
  | infinity s => simp [parts, valueOf?] at value
  | zero s => simp_all [valueOf?]
  | finite s m q positive => simp_all [valueOf?]

theorem apply_ne_zero (s : Sign) {m : ℕ} (positive : 0 < m) : s.apply m ≠ 0 := by
  cases s <;> simp [Sign.apply, positive.ne']

theorem value_ne_zero (s : Sign) {m : ℕ} (q : ℤ) (positive : 0 < m) : ((s.apply m : ℤ) : ℚ) * 2 ^ q ≠ 0 :=
  mul_ne_zero (Int.cast_ne_zero.2 (apply_ne_zero s positive)) (zpow_ne_zero q two_ne_zero)

theorem value_decreaseExponent (s : Sign) (m : ℕ) {q least : ℤ} (below : least ≤ q) :
    ((s.apply (decreaseExponent m q least).1 : ℤ) : ℚ) * 2 ^ least = (s.apply m : ℤ) * 2 ^ q := by
  obtain ⟨k, rfl⟩ := Int.le.dest below
  have shift : (least + k - least).toNat = k := by omega
  rw [decreaseExponent, shift, Nat.shiftLeft_eq, zpow_add₀ two_ne_zero, zpow_natCast]
  cases s <;> simp [Sign.apply] <;> ring

theorem sub_isZero_iff {x y : Float} {u v : ℚ} (first : value? x = some u) (second : value? y = some v) :
    (∃ s, unpacked (x - y) = .zero s) ↔ u = v := by
  have difference : unpacked (x - y) = repack (UnpackedFloat.sub Format.binary64 (unpacked x) (unpacked y)) := rfl
  rw [difference]
  rcases unpacked_of_value? first with ⟨s, partsX, rfl⟩ | ⟨s, m, q, positive, partsX, rfl⟩ <;>
    rcases unpacked_of_value? second with ⟨s', partsY, rfl⟩ | ⟨s', m', q', positive', partsY, rfl⟩ <;>
    rw [partsX, partsY]
  -- Only two finite floats are aligned and rounded, and their difference is a multiple of the finer unit of the two.
  · refine iff_of_true ?_ rfl
    cases s <;> cases s' <;> exact ⟨_, rfl⟩
  · obtain ⟨bounded, least, -⟩ := bounds_of_unpacked partsY
    have signed := signed_repack_finite (-s') positive' bounded least
    exact iff_of_false (not_exists.2 signed.ne_zero) (value_ne_zero s' q' positive').symm
  · obtain ⟨bounded, least, -⟩ := bounds_of_unpacked partsX
    have signed := signed_repack_finite s positive bounded least
    exact iff_of_false (not_exists.2 signed.ne_zero) (value_ne_zero s q positive)
  · have least := le_min (bounds_of_unpacked partsX).2.1 (bounds_of_unpacked partsY).2.1
    have some := zpow_ne_zero (min q q') (two_ne_zero' ℚ)
    simp only [UnpackedFloat.sub]
    rw [repack_normalize_isZero_iff _ least, sub_eq_zero, ← Int.cast_inj (α := ℚ), ← mul_left_inj' some,
      value_decreaseExponent s m (min_le_left ..), value_decreaseExponent s' m' (min_le_right ..)]

end ReplicaAtlas.Binary64
