import Outlay.Proofs.Binary64.Difference
import Outlay.Proofs.Binary64.Rounding

/-!
# Mantissas with a rest

While a result is shifted to its last place, two bits tell where the rest that is cut off lies: at zero,
below the middle, on it or above. This is enough to round correctly, so whatever result has such a mantissa
is packed as the nearest float (`unpack_pack_roundWithAccuracy`).
-/

namespace Outlay.Binary64

open Float.Model UnpackedFloat

/-- The numbers that a mantissa and its two bits may come from. -/
def Stands : ExtendedMantissa → ℚ → Prop
  | ⟨m, false, false⟩, a => a = m
  | ⟨m, false, true⟩, a => m < a ∧ a < m + 1 / 2
  | ⟨m, true, false⟩, a => a = m + 1 / 2
  | ⟨m, true, true⟩, a => m + 1 / 2 < a ∧ a < m + 1

theorem Stands.bounds {em : ExtendedMantissa} {a : ℚ} (h : Stands em a) :
    em.mantissa ≤ a ∧ a < em.mantissa + 1 := by
  obtain ⟨m, roundBit, stickyBit⟩ := em
  cases roundBit <;> cases stickyBit <;> simp only [Stands] at h <;> constructor <;> linarith

theorem Stands.shiftRightOne {em : ExtendedMantissa} {a : ℚ} (h : Stands em a) :
    Stands em.shiftRightOne (a / 2) := by
  obtain ⟨m, roundBit, stickyBit⟩ := em
  unfold ExtendedMantissa.shiftRightOne
  simp only
  have half := Nat.div_add_mod m 2
  generalize m / 2 = k at *
  rcases Nat.mod_two_eq_zero_or_one m with even | odd
  · have size : (m : ℚ) = 2 * k := by exact_mod_cast (by omega : m = 2 * k)
    rw [even]
    cases roundBit <;> cases stickyBit <;> simp only [Stands, size] at h
    · exact show a / 2 = k by linarith
    all_goals exact ⟨by linarith, by linarith⟩
  · have size : (m : ℚ) = 2 * k + 1 := by exact_mod_cast (by omega : m = 2 * k + 1)
    rw [odd]
    cases roundBit <;> cases stickyBit <;> simp only [Stands, size] at h
    · exact show a / 2 = k + 1 / 2 by linarith
    all_goals exact ⟨by linarith, by linarith⟩

theorem Stands.shiftRight {em : ExtendedMantissa} {a : ℚ} (h : Stands em a) (k : ℕ) :
    Stands (em >>> k) (a / 2 ^ k) := by
  induction k with
  | zero =>
    rw [pow_zero, div_one]
    exact h
  | succ k ih =>
    rw [pow_succ, ← div_div]
    exact ih.shiftRightOne

theorem Stands.roundedMantissa {em : ExtendedMantissa} {num den : ℕ} (den_pos : 0 < den)
    (h : Stands em (num / den)) : em.roundedMantissa = divHalfEven num den := by
  symm
  obtain ⟨m, roundBit, stickyBit⟩ := em
  cases roundBit <;> cases stickyBit <;> simp only [Stands] at h
  · change _ = m
    exact divHalfEven_eq den_pos (by linarith) (by linarith) fun _ => ⟨by linarith, by linarith⟩
  · change _ = m
    exact divHalfEven_eq den_pos (by linarith) (by linarith) fun _ => ⟨by linarith, by linarith⟩
  · change _ = m + m % 2
    rcases Nat.mod_two_eq_zero_or_one m with even | odd
    · rw [even, Nat.add_zero]
      exact divHalfEven_eq den_pos (by linarith) (by linarith) fun odd => by omega
    · rw [odd]
      apply divHalfEven_eq den_pos
      · push_cast
        linarith
      · push_cast
        linarith
      · omega
  · change _ = m + 1
    apply divHalfEven_eq den_pos
    · push_cast
      linarith
    · push_cast
      linarith
    · intro _
      push_cast
      constructor <;> linarith

theorem stands_exact (m : ℕ) : Stands (ExtendedMantissa.ofMantissaAndAccuracy m .exact) m :=
  show (m : ℚ) = m from rfl

/-- The accuracy of a quotient tells where the rest lies. -/
theorem stands_div (num : ℕ) {den : ℕ} (den_pos : 0 < den) :
    Stands (ExtendedMantissa.ofMantissaAndAccuracy (num / den) (accuracyOfFraction (num % den) den))
      (num / den) := by
  have den_pos' : (0 : ℚ) < den := Nat.cast_pos.2 den_pos
  have parts : (num : ℚ) = (num / den : ℕ) * den + (num % den : ℕ) := by
    exact_mod_cast (Nat.div_add_mod' num den).symm
  have less : ((num % den : ℕ) : ℚ) < den := Nat.cast_lt.2 (Nat.mod_lt num den_pos)
  generalize num / den = m at *
  generalize num % den = rest at *
  have quotient : (num : ℚ) / den = m + rest / den := by
    rw [parts, add_div, mul_div_assoc, div_self den_pos'.ne', mul_one]
  rw [quotient]
  unfold accuracyOfFraction
  split
  next zero =>
    subst zero
    rw [Nat.cast_zero, zero_div, add_zero]
    exact stands_exact m
  next nonzero =>
    have rest_pos : (0 : ℚ) < rest / den := div_pos (Nat.cast_pos.2 (Nat.pos_of_ne_zero nonzero)) den_pos'
    rcases lt_trichotomy (2 * rest) den with below | middle | above
    · rw [Nat.compare_eq_lt.2 below]
      have half : (rest / den : ℚ) < 1 / 2 := by
        rw [div_lt_div_iff₀ den_pos' two_pos]
        exact_mod_cast (by omega : rest * 2 < 1 * den)
      exact show _ ∧ _ from ⟨by linarith, by linarith⟩
    · rw [Nat.compare_eq_eq.2 middle]
      have half : (rest / den : ℚ) = 1 / 2 := by
        rw [div_eq_div_iff den_pos'.ne' two_ne_zero]
        exact_mod_cast (by omega : rest * 2 = 1 * den)
      exact show _ = _ by rw [half]
    · rw [Nat.compare_eq_gt.2 above]
      have half : (1 / 2 : ℚ) < rest / den := by
        rw [div_lt_div_iff₀ two_pos den_pos']
        exact_mod_cast (by omega : 1 * den < rest * 2)
      have one : (rest / den : ℚ) < 1 := (div_lt_one den_pos').2 less
      exact show _ ∧ _ from ⟨by linarith, by linarith⟩

/-! Carrying and packing. -/

/-- The word of a mantissa that fits; past the greatest exponent it is that of infinity. -/
theorem unpack_pack_unpacked (s : Bool) {m : ℕ} {e : ℤ} (lt : m < 2 * unitBit) (least : -1074 ≤ e)
    (normal : unitBit ≤ m ∨ e = -1074) :
    UnpackedFloat.unpack .binary64 (UnpackedFloat.pack .binary64 (Parts.finite s m e).unpacked) =
      (ofMagnitude s (min ((e + 1074).toNat * unitBit + m) (2047 * unitBit))).toModel.unpack := by
  rcases le_or_gt e 971 with inRange | beyond
  · have float : IsFinite m e := ⟨lt, least, inRange, normal⟩
    have word : min ((e + 1074).toNat * unitBit + m) (2047 * unitBit) =
        (e + 1074).toNat * unitBit + m := by
      rw [unitBit] at *
      omega
    rw [word, ← parts_ofMagnitude_eq s float, ← unpack_eq_parts]
    exact congrArg (UnpackedFloat.unpack .binary64) (pack_unpack_of_valid (Float.toModel _).valid)
  · have filled : unitBit ≤ m := normal.resolve_right (by omega)
    have word : min ((e + 1074).toNat * unitBit + m) (2047 * unitBit) = 2047 * unitBit := by
      rw [unitBit] at *
      omega
    have pos : 0 < m := lt_of_lt_of_le (by decide) filled
    have tooLarge : 2 ^ Format.binary64.exponentBits ≤
        (e + (Format.binary64.exponentBias : ℤ) + Format.binary64.mantissaBitsWithoutImplicit).toNat + 1 := by
      change 2048 ≤ (e + 1023 + 52).toNat + 1
      omega
    have shape : (Parts.finite s m e).unpacked = .finite (signOf s) m e pos := dif_pos pos
    rw [word, unpack_eq_parts, parts_ofMagnitude_full, shape, UnpackedFloat.pack, if_pos tooLarge]
    cases s <;> rfl

/-- What rounding leaves: a mantissa of one bit too many is halved. -/
theorem exists_roundWithAccuracy_eq (s : Bool) {m : ℕ} {e : ℤ} {accuracy : Accuracy} {r : ℕ} {place : ℤ}
    (mantissa : (shiftToTargetExponent .binary64 m e accuracy).1.roundedMantissa = r)
    (exponent : (shiftToTargetExponent .binary64 m e accuracy).2 = place)
    (most : r ≤ 2 * unitBit) (least : -1074 ≤ place) :
    ∃ n f, roundWithAccuracy .binary64 (signOf s) m e accuracy = (Parts.finite s n f).unpacked ∧
      (r < 2 * unitBit ∧ n = r ∧ f = place ∨ r = 2 * unitBit ∧ n = unitBit ∧ f = place + 1) := by
  refine ⟨(shiftToTargetExponent .binary64 r place .exact).1.mantissa,
    (shiftToTargetExponent .binary64 r place .exact).2, ?_, ?_⟩
  · unfold roundWithAccuracy Parts.unpacked
    simp only [mantissa, exponent]
    split
    next zero => rw [dif_neg (by omega)]
    next nonzero => rw [dif_pos (Nat.pos_of_ne_zero nonzero)]
  · unfold shiftToTargetExponent shiftToExponent
    simp only [mantissa_shiftRight, mantissa_ofMantissaAndAccuracy]
    rw [targetExponent_eq, totalExponent]
    have unit : 2 * unitBit = 2 ^ 53 := by decide
    rcases Nat.lt_or_eq_of_le most with small | rfl
    · have size : r.log2 < 53 := by
        rcases Nat.eq_zero_or_pos r with rfl | pos
        · decide
        · exact (Nat.log2_lt pos.ne').2 (unit ▸ small)
      have none : (max ((r.log2 : ℤ) + 1 + place - 53) (-1074) - place).toNat = 0 := by omega
      rw [none]
      exact .inl ⟨small, Nat.div_one r, Int.add_zero place⟩
    · have size : (2 * unitBit).log2 = 53 := by decide
      have one : (max (((2 * unitBit).log2 : ℤ) + 1 + place - 53) (-1074) - place).toNat = 1 := by omega
      rw [one]
      exact .inr ⟨rfl, by decide, rfl⟩

section

variable {m num den : ℕ} {e : ℤ} {accuracy : Accuracy} (num_pos : 0 < num) (den_pos : 0 < den)
  (stands : Stands (ExtendedMantissa.ofMantissaAndAccuracy m accuracy) (num / den / 2 ^ e))
  (within : e ≤ lastPlace num den)

include num_pos den_pos stands within

/-- The place that a mantissa is shifted to is that of the number it stands for. -/
theorem target_eq_lastPlace :
    e + (Format.binary64.targetExponent (totalExponent m e) - e).toNat = lastPlace num den := by
  obtain ⟨low, high⟩ := stands.bounds
  rw [mantissa_ofMantissaAndAccuracy, le_div_iff₀ (two_zpow_pos e)] at low
  rw [mantissa_ofMantissaAndAccuracy, div_lt_iff₀ (two_zpow_pos e)] at high
  obtain ⟨top, topLow, topHigh, place⟩ := exists_lastPlace_eq num_pos den_pos
  rw [targetExponent_eq, totalExponent]
  rcases Nat.eq_zero_or_pos m with rfl | pos
  · -- Nothing is left of the number at this place, so this is the least place or one below it.
    have small : (num / den : ℚ) < 2 ^ e := by simpa using high
    have := two_zpow_lt_iff.1 (topLow.trans_lt small)
    rw [Nat.log2_zero]
    omega
  · have atLeast : (2 : ℚ) ^ (m.log2 + e : ℤ) ≤ num / den := by
      rw [zpow_add₀ two_ne_zero]
      exact (mul_le_mul_of_nonneg_right (two_zpow_log2_le pos) (two_zpow_pos e).le).trans low
    have below : (num / den : ℚ) < 2 ^ (m.log2 + 1 + e : ℤ) := by
      have next : (m : ℚ) + 1 ≤ 2 ^ (m.log2 + 1 : ℤ) := by
        have := Nat.lt_log2_self (n := m)
        exact_mod_cast this
      rw [zpow_add₀ two_ne_zero]
      exact high.trans_le (mul_le_mul_of_nonneg_right next (two_zpow_pos e).le)
    have := two_zpow_lt_iff.1 (topLow.trans_lt below)
    have := two_zpow_lt_iff.1 (atLeast.trans_lt topHigh)
    omega

theorem roundedMantissa_eq_rounded :
    (shiftToTargetExponent .binary64 m e accuracy).1.roundedMantissa = rounded num den := by
  have shift := target_eq_lastPlace num_pos den_pos stands within
  have shifted := stands.shiftRight (Format.binary64.targetExponent (totalExponent m e) - e).toNat
  rw [div_div, ← zpow_natCast, ← zpow_add₀ two_ne_zero, shift, ← scaled_div] at shifted
  exact shifted.roundedMantissa (Nat.mul_pos den_pos (Nat.pow_pos (by decide)))

/-- Whatever the mantissa, it is rounded and packed as the float next to the number it stands for. -/
theorem unpack_pack_roundWithAccuracy (s : Bool) :
    UnpackedFloat.unpack .binary64
        (UnpackedFloat.pack .binary64 (roundWithAccuracy .binary64 (signOf s) m e accuracy)) =
      (nearest s num den).toModel.unpack := by
  have least : -1074 ≤ lastPlace num den := le_max_right _ _
  obtain ⟨n, f, eq, carried⟩ := exists_roundWithAccuracy_eq s
    (roundedMantissa_eq_rounded num_pos den_pos stands within)
    (target_eq_lastPlace num_pos den_pos stands within) (rounded_le num_pos den_pos) least
  have filled := unitBit_le_rounded num_pos den_pos
  have word : (f + 1074).toNat * unitBit + n =
      (lastPlace num den + 1074).toNat * unitBit + rounded num den := by
    rw [unitBit] at *
    omega
  have fits : n < 2 * unitBit ∧ -1074 ≤ f ∧ (unitBit ≤ n ∨ f = -1074) := by
    rw [unitBit] at *
    omega
  rw [eq, unpack_pack_unpacked s fits.1 fits.2.1 fits.2.2, word, ← magnitude_of_pos num_pos den]
  rfl

theorem isRounding_of_unpack {z : Float} (unpacked : z.toModel.unpack = UnpackedFloat.unpack .binary64
    (UnpackedFloat.pack .binary64 (roundWithAccuracy .binary64 .positive m e accuracy))) :
    IsRounding (num / den) z := by
  have same : z = nearest false num den := eq_of_unpack_eq
    (unpacked.trans (unpack_pack_roundWithAccuracy num_pos den_pos stands within false))
  rw [same]
  exact isRounding_nearest den_pos

end

end Outlay.Binary64
