import Outlay.Proofs.Binary64.Value

/-!
# Correct rounding

The float that a quotient is rounded to is the one next to it (`isRounding_nearest`), and there is
only one such float (`IsRounding.unique`).
-/

namespace Outlay.Binary64

open Float.Model UnpackedFloat

/-! The mantissa of what is taken. -/

/-- No whole number is nearer, and of two equally near ones the even one is taken. -/
theorem divHalfEven_nearest (num : ℕ) {den : ℕ} (den_pos : 0 < den) (k : ℤ) :
    |(num / den : ℚ) - divHalfEven num den| ≤ |(num / den : ℚ) - k| ∧
      (|(num / den : ℚ) - divHalfEven num den| = |(num / den : ℚ) - k| → k ≠ divHalfEven num den →
        divHalfEven num den % 2 = 0) := by
  obtain ⟨near, nearer⟩ := abs_sub_divHalfEven_le num den_pos
  by_cases same : k = divHalfEven num den
  · rw [same]
    exact ⟨le_rfl, fun _ other => absurd rfl other⟩
  · have apart : (1 : ℚ) ≤ |(divHalfEven num den : ℚ) - k| := by
      have : 1 ≤ |(divHalfEven num den : ℤ) - k| := Int.one_le_abs (sub_ne_zero.2 (Ne.symm same))
      exact_mod_cast this
    have far : 1 / 2 ≤ |(num / den : ℚ) - k| := by
      have detour := abs_sub_le (divHalfEven num den : ℚ) (num / den) k
      rw [abs_sub_comm (divHalfEven num den : ℚ) (num / den)] at detour
      linarith
    refine ⟨near.trans far, fun equal _ => ?_⟩
    rcases Nat.mod_two_eq_zero_or_one (divHalfEven num den) with even | odd
    · exact even
    · exact absurd equal (nearer odd |>.trans_le far).ne

theorem abs_sub_rounded_le (num : ℕ) {den : ℕ} (den_pos : 0 < den) :
    |(num / den / 2 ^ lastPlace num den : ℚ) - rounded num den| ≤ 1 / 2 ∧
      (rounded num den % 2 = 1 →
        |(num / den / 2 ^ lastPlace num den : ℚ) - rounded num den| < 1 / 2) := by
  have unit_pos : 0 < den * Nat.pow 2 (lastPlace num den).toNat :=
    Nat.mul_pos den_pos (Nat.pow_pos (by decide))
  have near := abs_sub_divHalfEven_le (num * Nat.pow 2 (-lastPlace num den).toNat) unit_pos
  rwa [scaled_div] at near

theorem rounded_nearest (num : ℕ) {den : ℕ} (den_pos : 0 < den) (k : ℤ) :
    |(num / den / 2 ^ lastPlace num den : ℚ) - rounded num den| ≤
        |(num / den / 2 ^ lastPlace num den : ℚ) - k| ∧
      (|(num / den / 2 ^ lastPlace num den : ℚ) - rounded num den| =
        |(num / den / 2 ^ lastPlace num den : ℚ) - k| → k ≠ rounded num den →
          rounded num den % 2 = 0) := by
  have unit_pos : 0 < den * Nat.pow 2 (lastPlace num den).toNat :=
    Nat.mul_pos den_pos (Nat.pow_pos (by decide))
  have nearest := divHalfEven_nearest (num * Nat.pow 2 (-lastPlace num den).toNat) unit_pos k
  rwa [scaled_div] at nearest

section

variable {num den : ℕ} (num_pos : 0 < num) (den_pos : 0 < den)

include num_pos den_pos

/-- Above the least place the quotient fills the mantissa. -/
theorem unitBit_mul_le (above : lastPlace num den ≠ -1074) :
    unitBit * 2 ^ lastPlace num den ≤ (num / den : ℚ) := by
  obtain ⟨top, low, -, place⟩ := exists_lastPlace_eq num_pos den_pos
  have exponent : top = 52 + lastPlace num den := by omega
  calc (unitBit * 2 ^ lastPlace num den : ℚ) = 2 ^ (52 + lastPlace num den) := by
        rw [zpow_add₀ two_ne_zero, unitBit]
        norm_num
    _ = 2 ^ top := by rw [exponent]
    _ ≤ num / den := low

theorem unitBit_le_rounded (above : lastPlace num den ≠ -1074) : unitBit ≤ rounded num den := by
  have filled := unitBit_mul_le num_pos den_pos above
  rw [← le_div_iff₀ (two_zpow_pos _)] at filled
  by_contra short
  -- The unit bit would be nearer.
  have near := (rounded_nearest num den_pos unitBit).1
  have below : (rounded num den : ℚ) + 1 ≤ unitBit := by exact_mod_cast (not_le.1 short)
  rw [Int.cast_natCast, abs_of_nonneg (by linarith), abs_of_nonneg (by linarith)] at near
  linarith

/-- A mantissa of one bit more is halved. -/
theorem exists_parts_nearest (negative : Bool) (h : (num / den : ℚ) < overflow) :
    ∃ m e, parts (nearest negative num den) = .finite negative m e ∧
      (m * 2 ^ e : ℚ) = rounded num den * 2 ^ lastPlace num den ∧
      (rounded num den % 2 = 0 → m % 2 = 0) := by
  have least : -1074 ≤ lastPlace num den := le_max_right _ _
  have most := rounded_le num_pos den_pos
  have filled := unitBit_le_rounded num_pos den_pos
  have bound := magnitude_lt den_pos h
  have word : magnitude num den = (lastPlace num den + 1074).toNat * unitBit + rounded num den := by
    rw [magnitude_of_pos num_pos den] at bound ⊢
    omega
  rw [nearest, word]
  rw [word] at bound
  generalize rounded num den = r at *
  generalize lastPlace num den = place at *
  rcases Nat.lt_or_eq_of_le most with small | rfl
  · have float : IsFinite r place := by
      refine ⟨small, least, ?_, ?_⟩
      · rw [unitBit] at *
        omega
      · omega
    exact ⟨r, place, parts_ofMagnitude_eq negative float, rfl, id⟩
  · have float : IsFinite unitBit (place + 1) := by
      refine ⟨by decide, by omega, ?_, .inl le_rfl⟩
      rw [unitBit] at *
      omega
    have carried : (place + 1074).toNat * unitBit + 2 * unitBit =
        (place + 1 + 1074).toNat * unitBit + unitBit := by
      rw [unitBit]
      omega
    refine ⟨unitBit, place + 1, ?_, ?_, fun _ => by decide⟩
    · rw [carried]
      exact parts_ofMagnitude_eq negative float
    · rw [zpow_add_one₀ two_ne_zero]
      push_cast
      ring

end

/-! Correct rounding. -/

def Parts.mantissa : Parts → ℕ
  | .finite _ m _ => m
  | _ => 0

/-- The float next to a number that is not negative. No float is nearer, and of two that are equally
near it is the one with the even mantissa; from the middle behind the largest float on it is
infinite. -/
structure IsRounding (q : ℚ) (x : Float) : Prop where
  unsigned : x.toBits.toNat < signBit
  finite : q < overflow → x.isFinite = true
  infinite : overflow ≤ q → x = 1.0 / 0.0
  nearest : x.isFinite = true → ∀ y : Float, y.isFinite = true →
    |q - (parts x).value| ≤ |q - (parts y).value|
  even : x.isFinite = true → ∀ y : Float, y.isFinite = true →
    |q - (parts x).value| = |q - (parts y).value| → (parts y).value ≠ (parts x).value →
      (parts x).mantissa % 2 = 0

/-- A float is a multiple of a place, or it lies below the floats that end at this place. -/
theorem value_finite_cases {n : ℕ} {f : ℤ} (float : IsFinite n f) (s : Bool) (place : ℤ) :
    (∃ k : ℤ, (Parts.finite s n f).value = k * 2 ^ place) ∨
      place ≠ -1074 ∧ (Parts.finite s n f).value < unitBit * 2 ^ place := by
  rcases le_or_gt place f with within | below
  · left
    obtain ⟨d, shift⟩ := Int.eq_ofNat_of_zero_le (sub_nonneg.2 within)
    have power : (2 : ℚ) ^ f = (2 ^ d : ℤ) * 2 ^ place := by
      rw [show f = d + place by omega, zpow_add₀ two_ne_zero, zpow_natCast]
      push_cast
      rfl
    cases s with
    | false =>
      refine ⟨n * 2 ^ d, ?_⟩
      rw [Parts.value, power]
      push_cast
      ring
    | true =>
      refine ⟨-(n * 2 ^ d), ?_⟩
      rw [Parts.value, if_pos rfl, power]
      push_cast
      ring
  · right
    have least := float.least
    refine ⟨by omega, ?_⟩
    have size := mul_two_zpow_lt_unitBit_mul float below
    cases s with
    | false => exact size
    | true =>
      refine lt_of_le_of_lt ?_ size
      have : (0 : ℚ) ≤ n * 2 ^ f := mul_nonneg (Nat.cast_nonneg n) (two_zpow_pos f).le
      exact neg_le_self this

theorem abs_sub_mul_two_zpow (q a : ℚ) (place : ℤ) :
    |q - a * 2 ^ place| = |q / 2 ^ place - a| * 2 ^ place := by
  have positive := two_zpow_pos place
  rw [← abs_of_pos positive, ← abs_mul, abs_of_pos positive, sub_mul, div_mul_cancel₀ _ positive.ne']

theorem two_zpow_lt_overflow : (2 : ℚ) ^ (1023 : ℤ) < overflow := by
  have double : (2 : ℚ) ^ (1024 : ℤ) = 2 ^ (1023 : ℤ) * 2 := zpow_add_one₀ two_ne_zero 1023
  have less : (2 : ℚ) ^ (970 : ℤ) < 2 ^ (1023 : ℤ) := two_zpow_lt_iff.2 (by decide)
  rw [overflow, double, mul_two, add_sub_assoc]
  exact lt_add_of_pos_right _ (sub_pos.2 less)

theorem magnitude_eq_of_overflow_le {num den : ℕ} (den_pos : 0 < den)
    (h : overflow ≤ (num / den : ℚ)) : magnitude num den = 2047 * unitBit := by
  have num_pos : 0 < num := by
    rcases Nat.eq_zero_or_pos num with rfl | pos
    · rw [Nat.cast_zero, zero_div] at h
      exact absurd h (not_le.2 overflow_pos)
    · exact pos
  obtain ⟨top, low, high, place⟩ := exists_lastPlace_eq num_pos den_pos
  have top_ge := two_zpow_lt_iff.1 (two_zpow_lt_overflow.trans_le h |>.trans high)
  have filled := unitBit_le_rounded num_pos den_pos (by omega)
  rw [magnitude_of_pos num_pos den]
  apply Nat.min_eq_right
  rcases lt_or_eq_of_le (show 1023 ≤ top by omega) with above | rfl
  · rw [unitBit] at *
    omega
  · -- In the binade of the largest float the mantissa carries, also from the middle itself.
    have exponent : lastPlace num den = 971 := by omega
    obtain ⟨near, nearer⟩ := abs_sub_rounded_le num den_pos
    have middle : (2 * unitBit - 1 / 2 : ℚ) ≤ num / den / 2 ^ lastPlace num den := by
      rw [le_div_iff₀ (two_zpow_pos _), exponent]
      exact overflow_eq.symm.trans_le h
    have carries : 2 * unitBit ≤ rounded num den := by
      by_contra short
      have below : (rounded num den : ℚ) + 1 ≤ 2 * unitBit := by exact_mod_cast (not_le.1 short)
      have distance := le_abs_self ((num / den / 2 ^ lastPlace num den : ℚ) - rounded num den)
      have last : rounded num den + 1 = 2 * unitBit := by
        refine le_antisymm (not_le.1 short) ?_
        have : (2 * unitBit : ℚ) ≤ rounded num den + 1 := by linarith
        exact_mod_cast this
      have := nearer (by rw [unitBit] at last; omega)
      linarith
    rw [exponent]
    simp only [unitBit] at carries ⊢
    omega

theorem magnitude_eq_zero {num den : ℕ} (num_pos : 0 < num) (den_pos : 0 < den)
    (h : (num / den : ℚ) < 2 ^ (-1075 : ℤ)) : magnitude num den = 0 := by
  obtain ⟨top, low, -, place⟩ := exists_lastPlace_eq num_pos den_pos
  have top_lt := two_zpow_lt_iff.1 (low.trans_lt h)
  have exponent : lastPlace num den = -1074 := by omega
  have mantissa : rounded num den ≤ 0 := by
    apply divHalfEven_lastPlace_le den_pos
    have half : (2 : ℚ) ^ (-1074 : ℤ) = 2 ^ (-1075 : ℤ) * 2 := zpow_add_one₀ two_ne_zero (-1075)
    refine h.trans_eq ?_
    rw [exponent, half]
    ring
  rw [magnitude_of_pos num_pos den, exponent]
  rw [unitBit]
  omega

/-- What is taken against any other float. -/
theorem abs_sub_value_nearest_le {num den : ℕ} (num_pos : 0 < num) (den_pos : 0 < den)
    (small : (num / den : ℚ) < overflow) {y : Float} (finite : y.isFinite = true) :
    |(num / den : ℚ) - (parts (nearest false num den)).value| ≤ |(num / den : ℚ) - (parts y).value| ∧
      (|(num / den : ℚ) - (parts (nearest false num den)).value| =
          |(num / den : ℚ) - (parts y).value| →
        (parts y).value ≠ (parts (nearest false num den)).value →
          (parts (nearest false num den)).mantissa % 2 = 0) := by
  obtain ⟨m, e, eq, value, even⟩ := exists_parts_nearest num_pos den_pos false small
  obtain ⟨s, n, f, eq'⟩ := exists_parts_of_isFinite finite
  have positive := two_zpow_pos (lastPlace num den)
  have valueEq : (parts (nearest false num den)).value =
      rounded num den * 2 ^ lastPlace num den := by
    rw [eq]
    exact value
  have mantissa : (parts (nearest false num den)).mantissa = m := by rw [eq]; rfl
  rw [valueEq, mantissa, eq', abs_sub_mul_two_zpow]
  rcases value_finite_cases (isFinite_of_parts eq') s (lastPlace num den) with
    ⟨k, multiple⟩ | ⟨above, below⟩
  · obtain ⟨near, tie⟩ := rounded_nearest num den_pos k
    rw [multiple, abs_sub_mul_two_zpow]
    refine ⟨mul_le_mul_of_nonneg_right near positive.le, fun equal other => even (tie ?_ ?_)⟩
    · exact mul_right_cancel₀ positive.ne' equal
    · rintro rfl
      exact other (by push_cast; rfl)
  · -- The least float of this place lies between the other float and the quotient.
    have filled := unitBit_mul_le num_pos den_pos above
    have near := (rounded_nearest num den_pos unitBit).1
    have nearer := mul_le_mul_of_nonneg_right near positive.le
    have toUnit := abs_sub_mul_two_zpow (num / den) (unitBit : ℚ) (lastPlace num den)
    rw [Int.cast_natCast, ← toUnit, abs_of_nonneg (sub_nonneg.2 filled)] at nearer
    have far := sub_lt_sub_left below (num / den : ℚ)
    rw [← abs_of_nonneg (sub_nonneg.2 (below.le.trans filled))] at far
    exact ⟨(nearer.trans_lt far).le, fun equal _ => absurd equal (nearer.trans_lt far).ne⟩

theorem isRounding_nearest {num den : ℕ} (den_pos : 0 < den) :
    IsRounding (num / den) (nearest false num den) := by
  have finite : (num / den : ℚ) < overflow → (nearest false num den).isFinite = true :=
    isFinite_nearest false den_pos
  have infinite (large : overflow ≤ (num / den : ℚ)) : nearest false num den = 1.0 / 0.0 := by
    rw [nearest, magnitude_eq_of_overflow_le den_pos large]
    decide +kernel
  have small (isFinite : (nearest false num den).isFinite = true) : (num / den : ℚ) < overflow := by
    by_contra large
    rw [infinite (not_lt.1 large)] at isFinite
    exact absurd isFinite (by decide +kernel)
  have unsigned : (nearest false num den).toBits.toNat < signBit := by
    rw [nearest, toBits_ofMagnitude false (magnitude_le num den), if_neg Bool.false_ne_true]
    exact (magnitude_le num den).trans_lt (by decide)
  rcases Nat.eq_zero_or_pos num with rfl | num_pos
  · have zero : parts (nearest false 0 den) = .finite false 0 (-1074) := by
      have word : magnitude 0 den = 0 := if_pos rfl
      rw [nearest, word, parts_ofMagnitude false (by decide)]
      rfl
    refine ⟨unsigned, finite, infinite, fun _ y _ => ?_, fun _ y _ _ _ => ?_⟩
    · rw [zero]
      simp [Parts.value]
    · rw [zero]
      rfl
  · exact ⟨unsigned, finite, infinite,
      fun isFinite _ hy => (abs_sub_value_nearest_le num_pos den_pos (small isFinite) hy).1,
      fun isFinite _ hy => (abs_sub_value_nearest_le num_pos den_pos (small isFinite) hy).2⟩

/-- Between two even mantissas there is another float. -/
theorem exists_between {m n : ℕ} {e f : ℤ} (x : IsFinite m e) (y : IsFinite n f) (hm : m % 2 = 0)
    (hn : n % 2 = 0) (less : (m * 2 ^ e : ℚ) < n * 2 ^ f) :
    IsFinite (m + 1) e ∧ (m * 2 ^ e : ℚ) < (m + 1 : ℕ) * 2 ^ e ∧
      ((m + 1 : ℕ) * 2 ^ e : ℚ) < n * 2 ^ f := by
  have size := x.lt
  have next : IsFinite (m + 1) e := by
    refine ⟨?_, x.least, x.greatest, x.normal.imp_left fun normal => by omega⟩
    rw [unitBit] at *
    omega
  refine ⟨next, mul_lt_mul_of_pos_right (Nat.cast_lt.2 (Nat.lt_succ_self m)) (two_zpow_pos e), ?_⟩
  rcases lt_trichotomy e f with below | rfl | above
  · exact mul_two_zpow_lt next y below
  · have gap : m < n := by exact_mod_cast lt_of_mul_lt_mul_right less (two_zpow_pos e).le
    exact mul_lt_mul_of_pos_right (Nat.cast_lt.2 (by omega)) (two_zpow_pos e)
  · exact absurd less (mul_two_zpow_lt y x above).not_gt

namespace IsRounding

variable {q : ℚ} {x y : Float}

theorem exists_parts (h : IsRounding q x) (small : q < overflow) :
    ∃ m e, parts x = .finite false m e := by
  obtain ⟨negative, m, e, eq⟩ := exists_parts_of_isFinite (h.finite small)
  have sign := negative_of_parts eq
  rw [decide_eq_false (not_le.2 h.unsigned)] at sign
  exact ⟨m, e, sign ▸ eq⟩

theorem value_le (hx : IsRounding q x) (hy : IsRounding q y) (small : q < overflow) :
    (parts x).value ≤ (parts y).value := by
  have xFinite := hx.finite small
  have yFinite := hy.finite small
  have distance := le_antisymm (hx.nearest xFinite y yFinite) (hy.nearest yFinite x xFinite)
  by_contra less
  have xEven := hx.even xFinite y yFinite distance (not_le.1 less).ne
  have yEven := hy.even yFinite x xFinite distance.symm (not_le.1 less).ne'
  obtain ⟨m, e, xParts⟩ := hx.exists_parts small
  obtain ⟨n, f, yParts⟩ := hy.exists_parts small
  rw [xParts, yParts] at less
  rw [xParts] at xEven
  rw [yParts] at yEven
  obtain ⟨between, above, below⟩ := exists_between (isFinite_of_parts yParts)
    (isFinite_of_parts xParts) yEven xEven (not_le.1 less)
  -- The number lies on one side of the float between, which is nearer than the float beyond it.
  have nextParts := parts_ofMagnitude_eq false between
  have nextFinite := isFinite_eq_true_of_parts nextParts
  have fromX := hx.nearest xFinite _ nextFinite
  have fromY := hy.nearest yFinite _ nextFinite
  rw [xParts, nextParts] at fromX
  rw [yParts, nextParts] at fromY
  change |q - m * 2 ^ e| ≤ |q - (n + 1 : ℕ) * 2 ^ f| at fromX
  change |q - n * 2 ^ f| ≤ |q - (n + 1 : ℕ) * 2 ^ f| at fromY
  rcases le_total q ((n + 1 : ℕ) * 2 ^ f) with low | high
  · rw [abs_of_nonpos (by linarith), abs_of_nonpos (by linarith)] at fromX
    linarith
  · rw [abs_of_nonneg (by linarith), abs_of_nonneg (by linarith)] at fromY
    linarith

theorem unique (hx : IsRounding q x) (hy : IsRounding q y) : x = y := by
  rcases le_or_gt overflow q with large | small
  · rw [hx.infinite large, hy.infinite large]
  · obtain ⟨m, e, xParts⟩ := hx.exists_parts small
    obtain ⟨n, f, yParts⟩ := hy.exists_parts small
    have value := le_antisymm (hx.value_le hy small) (hy.value_le hx small)
    rw [xParts, yParts] at value
    change (m * 2 ^ e : ℚ) = n * 2 ^ f at value
    have same := then_compare_eq_cmp (isFinite_of_parts xParts) (isFinite_of_parts yParts)
    rw [(cmp_eq_eq_iff _ _).2 value, Ordering.then_eq_eq, Int.compare_eq_eq, Nat.compare_eq_eq] at same
    obtain ⟨rfl, rfl⟩ := same
    rw [← ofMagnitude_of_parts xParts, ofMagnitude_of_parts yParts]

end IsRounding

end Outlay.Binary64
