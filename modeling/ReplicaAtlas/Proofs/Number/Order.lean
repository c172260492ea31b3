import ReplicaAtlas.Proofs.Number.Rounding

/-!
The order of floats is the order of their exact values. Mantissas of canonical parts are full, so exponents are
compared first.
-/
namespace ReplicaAtlas.Binary64

open Float.Model Float.Model.UnpackedFloat

theorem magnitude_pos {m : ℕ} (q : ℤ) (positive : 0 < m) : (0 : ℚ) < m * 2 ^ q :=
  mul_pos (Nat.cast_pos.2 positive) (zpow_pos two_pos q)

theorem magnitude_lt {m m' : ℕ} {q q' : ℤ} (bounded : m < 2 ^ 53) (full : 2 ^ 52 ≤ m') (less : q < q') :
    (m : ℚ) * 2 ^ q < m' * 2 ^ q' := by
  have some := zpow_pos (two_pos (α := ℚ)) q
  have fewer : (m : ℚ) < 2 ^ 53 := by exact_mod_cast bounded
  have more : (2 : ℚ) ^ 52 ≤ m' := by exact_mod_cast full
  calc (m : ℚ) * 2 ^ q < 2 ^ 53 * 2 ^ q := mul_lt_mul_of_pos_right fewer some
    _ = 2 ^ 52 * 2 ^ (q + 1) := by rw [zpow_add_one₀ two_ne_zero]; ring
    _ ≤ 2 ^ 52 * 2 ^ q' := by gcongr <;> [norm_num; omega]
    _ ≤ m' * 2 ^ q' := by gcongr

theorem compare_magnitudes {m m' : ℕ} {q q' : ℤ} (bounded : m < 2 ^ 53) (bounded' : m' < 2 ^ 53)
    (full : 2 ^ 52 ≤ m ∨ q = -1074) (full' : 2 ^ 52 ≤ m' ∨ q' = -1074) (least : -1074 ≤ q) (least' : -1074 ≤ q') :
    (compare q q').then (compare m m') = compare ((m : ℚ) * 2 ^ q) (m' * 2 ^ q') := by
  rcases lt_trichotomy q q' with less | rfl | more
  · rw [compare_lt_iff_lt.2 less, compare_lt_iff_lt.2 (magnitude_lt bounded (full'.resolve_right (by omega)) less)]
    rfl
  · rw [compare_eq_iff_eq.2 rfl]
    rcases lt_trichotomy m m' with less | rfl | more
    · rw [Ordering.eq_then, compare_lt_iff_lt.2 less, compare_lt_iff_lt.2 (by gcongr)]
    · rw [Ordering.eq_then, compare_eq_iff_eq.2 rfl, compare_eq_iff_eq.2 rfl]
    · rw [Ordering.eq_then, compare_gt_iff_gt.2 more, compare_gt_iff_gt.2 (by gcongr)]
  · rw [compare_gt_iff_gt.2 more, compare_gt_iff_gt.2 (magnitude_lt bounded' (full.resolve_right (by omega)) more)]
    rfl

theorem compare_neg_neg (u v : ℚ) : compare (-u) (-v) = (compare u v).swap := by
  rcases lt_trichotomy u v with less | rfl | more
  · rw [compare_lt_iff_lt.2 less, compare_gt_iff_gt.2 (neg_lt_neg less)]
    rfl
  · rw [compare_eq_iff_eq.2 rfl, compare_eq_iff_eq.2 rfl]
    rfl
  · rw [compare_gt_iff_gt.2 more, compare_lt_iff_lt.2 (neg_lt_neg more)]
    rfl

theorem value_positive (m : ℕ) (q : ℤ) : ((Sign.positive.apply m : ℤ) : ℚ) * 2 ^ q = m * 2 ^ q := by
  rw [Sign.apply, Int.cast_natCast]

theorem value_negative (m : ℕ) (q : ℤ) : ((Sign.negative.apply m : ℤ) : ℚ) * 2 ^ q = -(m * 2 ^ q) := by
  rw [Sign.apply, Int.cast_neg, Int.cast_natCast, neg_mul]

theorem compare_unpacked {x y : Float} {u v : ℚ} (first : value? x = some u) (second : value? y = some v) :
    (unpacked x).compare (unpacked y) = some (compare u v) := by
  rcases unpacked_of_value? first with ⟨s, partsX, rfl⟩ | ⟨s, m, q, positive, partsX, rfl⟩ <;>
    rcases unpacked_of_value? second with ⟨s', partsY, rfl⟩ | ⟨s', m', q', positive', partsY, rfl⟩ <;>
    rw [partsX, partsY]
  · exact congrArg _ (compare_eq_iff_eq.2 rfl).symm
  · have some' := magnitude_pos q' positive'
    cases s' <;> simp only [value_positive, value_negative]
    case negative => exact congrArg _ (compare_gt_iff_gt.2 (neg_neg_of_pos some')).symm
    case positive => exact congrArg _ (compare_lt_iff_lt.2 some').symm
  · have some := magnitude_pos q positive
    cases s <;> simp only [value_positive, value_negative]
    case negative => exact congrArg _ (compare_lt_iff_lt.2 (neg_neg_of_pos some)).symm
    case positive => exact congrArg _ (compare_gt_iff_gt.2 some).symm
  · obtain ⟨bounded, least, full⟩ := bounds_of_unpacked partsX
    obtain ⟨bounded', least', full'⟩ := bounds_of_unpacked partsY
    have magnitudes := compare_magnitudes bounded bounded' full full' least least'
    have some := magnitude_pos q positive
    have some' := magnitude_pos q' positive'
    -- Of one sign the magnitudes decide, backwards below zero; otherwise zero is between the two.
    cases s <;> cases s' <;> simp only [value_positive, value_negative]
    case negative.negative =>
      rw [compare_neg_neg, ← magnitudes]
      rfl
    case negative.positive => exact congrArg _ (compare_lt_iff_lt.2 ((neg_neg_of_pos some).trans some')).symm
    case positive.negative => exact congrArg _ (compare_gt_iff_gt.2 ((neg_neg_of_pos some').trans some)).symm
    case positive.positive => exact congrArg _ magnitudes

theorem le_iff_isLE (x y : Float) : x ≤ y ↔ ((unpacked x).compare (unpacked y)).any (·.isLE) = true :=
  decide_eq_true_iff

theorem lt_iff_eq_lt (x y : Float) : x < y ↔ ((unpacked x).compare (unpacked y) == some .lt) = true :=
  decide_eq_true_iff

section
variable {x y : Float} {u v : ℚ}

theorem le_iff (first : value? x = some u) (second : value? y = some v) : x ≤ y ↔ u ≤ v := by
  rw [le_iff_isLE, compare_unpacked first second, Option.any_some, Ordering.isLE_iff_ne_gt, ← not_lt]
  exact not_congr compare_gt_iff_gt

theorem lt_iff (first : value? x = some u) (second : value? y = some v) : x < y ↔ u < v := by
  rw [lt_iff_eq_lt, compare_unpacked first second, ← compare_lt_iff_lt]
  cases compare u v <;> decide

end

theorem beq_zero_iff (x : Float) : (x == 0.0) = true ↔ ∃ s, unpacked x = .zero s := by
  have zero : unpacked 0.0 = .zero .positive := rfl
  change ((unpacked x).compare (unpacked 0.0) == some .eq) = true ↔ _
  rw [zero]
  cases unpacked x with
  | notANumber => simp [UnpackedFloat.compare]
  | infinity s => cases s <;> simp [UnpackedFloat.compare]
  | zero s => simp [UnpackedFloat.compare]
  | finite s m q positive => cases s <;> simp [UnpackedFloat.compare]

theorem not_le_of_notANumber (x : Float) {y : Float} (notANumber : unpacked y = .notANumber) : ¬ x ≤ y := by
  rw [le_iff_isLE, notANumber]
  cases unpacked x <;> simp [UnpackedFloat.compare]

theorem not_le_negative_infinity {x y : Float} {u : ℚ} (value : value? x = some u)
    (infinite : unpacked y = .infinity .negative) : ¬ x ≤ y := by
  rw [le_iff_isLE, infinite]
  rcases unpacked_of_value? value with ⟨s, parts, -⟩ | ⟨s, m, q, positive, parts, -⟩ <;>
    simp [parts, UnpackedFloat.compare]

theorem not_positive_infinity_le {x y : Float} {u : ℚ} (value : value? x = some u)
    (infinite : unpacked y = .infinity .positive) : ¬ y ≤ x := by
  rw [le_iff_isLE, infinite]
  rcases unpacked_of_value? value with ⟨s, parts, -⟩ | ⟨s, m, q, positive, parts, -⟩ <;>
    simp [parts, UnpackedFloat.compare]

/-- What is between two finite floats is finite. -/
theorem exists_value {x y z : Float} {u v : ℚ} (first : value? x = some u) (second : value? z = some v)
    (above : x ≤ y) (below : y ≤ z) : ∃ w, value? y = some w := by
  have parts := valueOf?_unpacked y
  cases kind : unpacked y with
  | notANumber => exact absurd above (not_le_of_notANumber x kind)
  | infinity s =>
    cases s with
    | negative => exact absurd above (not_le_negative_infinity first kind)
    | positive => exact absurd below (not_positive_infinity_le second kind)
  | zero s => exact ⟨_, parts.symm.trans (congrArg valueOf? kind)⟩
  | finite s m q positive => exact ⟨_, parts.symm.trans (congrArg valueOf? kind)⟩

end ReplicaAtlas.Binary64
