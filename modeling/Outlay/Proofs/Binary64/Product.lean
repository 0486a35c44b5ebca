import Outlay.Proofs.Binary64.Mantissa
import Outlay.Proofs.Binary64.Minus
import Outlay.Proofs.Binary64.Sign

/-!
# Products and quotients

Products and quotients of finite floats without a minus are the exact ones, correctly rounded
(`isRounding_mul`, `isRounding_div`).
-/

namespace Outlay.Binary64

open Float.Model UnpackedFloat

theorem unpacked_pos {s : Bool} {m : ℕ} {e : ℤ} (pos : 0 < m) :
    (Parts.finite s m e).unpacked = .finite (signOf s) m e pos := dif_pos pos

/-! What is rounded already. -/

theorem value_lt_overflow {m : ℕ} {e : ℤ} (float : IsFinite m e) : (m * 2 ^ e : ℚ) < overflow := by
  have size : (m : ℚ) + 1 ≤ 2 * unitBit := by exact_mod_cast float.lt
  calc (m * 2 ^ e : ℚ) ≤ (2 * unitBit - 1) * 2 ^ e :=
        mul_le_mul_of_nonneg_right (by linarith) (two_zpow_pos e).le
    _ ≤ (2 * unitBit - 1) * 2 ^ (971 : ℤ) := by
        refine mul_le_mul_of_nonneg_left (zpow_le_zpow_right₀ (by norm_num) float.greatest) ?_
        rw [unitBit]
        norm_num
    _ < (2 * unitBit - 1 / 2) * 2 ^ (971 : ℤ) :=
        mul_lt_mul_of_pos_right (by linarith) (two_zpow_pos 971)
    _ = overflow := overflow_eq.symm

theorem exists_parts_of_plus {x : Float} (finite : x.isFinite = true) (plus : ¬HasMinus x) :
    ∃ m e, parts x = .finite false m e := by
  obtain ⟨negative, m, e, eq⟩ := exists_parts_of_isFinite finite
  have sign : ¬negative = true := fun minus => plus ((hasMinus_iff (negative_of_parts eq)).1 minus)
  rw [Bool.eq_false_of_not_eq_true sign] at eq
  exact ⟨m, e, eq⟩

section

variable {y : Float} (finite : y.isFinite = true) (pos : 0.0 < y)

include finite pos

theorem not_hasMinus_of_pos : ¬HasMinus y := by
  obtain ⟨k, g, hk, unpacked⟩ := exists_unpack_of_pos pos finite
  rw [not_hasMinus_iff, unpacked]
  rfl

theorem exists_parts_of_pos : ∃ n f, parts y = .finite false n f ∧ 0 < n := by
  obtain ⟨n, f, eq⟩ := exists_parts_of_plus finite (not_hasMinus_of_pos finite pos)
  refine ⟨n, f, eq, Nat.pos_of_ne_zero fun zero => ?_⟩
  obtain ⟨k, g, hk, unpacked⟩ := exists_unpack_of_pos pos finite
  rw [unpack_eq_parts, eq, zero] at unpacked
  cases unpacked

theorem value_pos_of_pos : 0 < (parts y).value := by
  obtain ⟨n, f, eq, hn⟩ := exists_parts_of_pos finite pos
  rw [eq]
  exact mul_pos (Nat.cast_pos.2 hn) (two_zpow_pos f)

end

theorem isRounding_self {x : Float} (finite : x.isFinite = true) (plus : ¬HasMinus x) :
    IsRounding (parts x).value x := by
  obtain ⟨m, e, eq⟩ := exists_parts_of_plus finite plus
  have small : (parts x).value < overflow := by
    rw [eq]
    exact value_lt_overflow (isFinite_of_parts eq)
  refine ⟨not_le.1 plus, fun _ => finite, fun large => absurd small large.not_gt, ?_, ?_⟩
  · intro _ y _
    rw [sub_self, abs_zero]
    exact abs_nonneg _
  · intro _ y _ equal other
    rw [sub_self, abs_zero] at equal
    exact absurd (sub_eq_zero.1 (abs_eq_zero.1 equal.symm)).symm other

theorem isRounding_zero : IsRounding 0 0.0 := by
  have value : (parts (0.0 : Float)).value = 0 := by
    have eq : parts (0.0 : Float) = .finite false 0 (-1074) := by decide +kernel
    rw [eq, value_zero]
  have self : IsRounding _ (0.0 : Float) := isRounding_self (by decide +kernel) (by decide +kernel)
  rwa [value] at self

/-! Quotients under an exponent. -/

theorem mul_pow_div_mul_pow (num den : ℕ) (e : ℤ) :
    ((num * Nat.pow 2 e.toNat : ℕ) : ℚ) / (den * Nat.pow 2 (-e).toNat : ℕ) = num / den * 2 ^ e := by
  have scaled := scaled_div num den (-e)
  rwa [neg_neg, zpow_neg, div_inv_eq_mul] at scaled

theorem pow_toNat_pos (k : ℤ) : 0 < Nat.pow 2 k.toNat := Nat.pow_pos (by decide)

/-- The last place of `num / den * 2 ^ e`. -/
def scaledPlace (num den : ℕ) (e : ℤ) : ℤ :=
  lastPlace (num * Nat.pow 2 e.toNat) (den * Nat.pow 2 (-e).toNat)

section

variable {num den : ℕ} {e place : ℤ} (num_pos : 0 < num) (den_pos : 0 < den)

include num_pos den_pos

theorem exists_scaledPlace_eq :
    ∃ top : ℤ, (2 : ℚ) ^ top ≤ num / den * 2 ^ e ∧ (num / den * 2 ^ e : ℚ) < 2 ^ (top + 1) ∧
      scaledPlace num den e = max (top - 52) (-1074) := by
  rw [← mul_pow_div_mul_pow]
  exact exists_lastPlace_eq (Nat.mul_pos num_pos (pow_toNat_pos e)) (Nat.mul_pos den_pos (pow_toNat_pos _))

theorem le_scaledPlace (h : place ≤ -1074 ∨ (2 : ℚ) ^ (place + 52) ≤ num / den * 2 ^ e) :
    place ≤ scaledPlace num den e := by
  obtain ⟨top, -, high, eq⟩ := exists_scaledPlace_eq (e := e) num_pos den_pos
  rcases h with least | filled
  · omega
  · have := two_zpow_lt_iff.1 (filled.trans_lt high)
    omega

theorem isRounding_scaled {m : ℕ} {accuracy : Accuracy} {z : Float}
    (stands : Stands (ExtendedMantissa.ofMantissaAndAccuracy m accuracy) (num / den * 2 ^ e / 2 ^ place))
    (within : place ≤ scaledPlace num den e)
    (unpacked : z.toModel.unpack = UnpackedFloat.unpack .binary64
      (UnpackedFloat.pack .binary64 (roundWithAccuracy .binary64 .positive m place accuracy))) :
    IsRounding (num / den * 2 ^ e) z := by
  rw [← mul_pow_div_mul_pow] at stands ⊢
  exact isRounding_of_unpack (Nat.mul_pos num_pos (pow_toNat_pos e)) (Nat.mul_pos den_pos (pow_toNat_pos _))
    stands within unpacked

end

theorem isRounding_of_unpack_zero {z : Float} (unpacked : z.toModel.unpack =
    UnpackedFloat.unpack .binary64 (UnpackedFloat.pack .binary64 (.zero .positive))) : IsRounding 0 z := by
  have packed : UnpackedFloat.unpack .binary64 (UnpackedFloat.pack .binary64 (.zero .positive)) =
      .zero .positive := unpack_packedZero
  rw [packed, ← unpack_zero] at unpacked
  rw [eq_of_unpack_eq unpacked]
  exact isRounding_zero

/-! Products. -/

theorem mul_le_scaledPlace {m n : ℕ} {e f : ℤ} (x : IsFinite m e) (y : IsFinite n f) (hm : 0 < m)
    (hn : 0 < n) : e + f ≤ scaledPlace (m * n) 1 (e + f) := by
  apply le_scaledPlace (Nat.mul_pos hm hn) one_pos
  rw [Nat.cast_one, div_one, add_comm (e + f) 52, zpow_add₀ two_ne_zero]
  have product (large : unitBit ≤ m * n) : (2 : ℚ) ^ (52 : ℤ) * 2 ^ (e + f) ≤ (m * n : ℕ) * 2 ^ (e + f) := by
    refine mul_le_mul_of_nonneg_right ?_ (two_zpow_pos _).le
    exact_mod_cast large
  rcases x.normal with normal | least
  · exact .inr (product (normal.trans (Nat.le_mul_of_pos_right m hn)))
  · rcases y.normal with normal | least'
    · exact .inr (product (normal.trans (Nat.le_mul_of_pos_left n hm)))
    · exact .inl (by omega)

theorem isRounding_mul {x y : Float} (hx : x.isFinite = true) (hy : y.isFinite = true)
    (xPlus : ¬HasMinus x) (yPlus : ¬HasMinus y) :
    IsRounding ((parts x).value * (parts y).value) (x * y) := by
  obtain ⟨m, e, xParts⟩ := exists_parts_of_plus hx xPlus
  obtain ⟨n, f, yParts⟩ := exists_parts_of_plus hy yPlus
  have product : (x * y).toModel.unpack = UnpackedFloat.unpack .binary64
      (UnpackedFloat.pack .binary64 (UnpackedFloat.mul .binary64 x.toModel.unpack y.toModel.unpack)) := rfl
  rw [unpack_eq_parts x, unpack_eq_parts y, xParts, yParts] at product
  rw [xParts, yParts]
  rcases Nat.eq_zero_or_pos m with rfl | hm
  · rw [value_zero, zero_mul]
    refine isRounding_of_unpack_zero (product.trans ?_)
    rcases Nat.eq_zero_or_pos n with rfl | hn
    · rfl
    · rw [unpacked_pos hn]
      rfl
  · rw [unpacked_pos hm] at product
    rcases Nat.eq_zero_or_pos n with rfl | hn
    · rw [value_zero, mul_zero]
      exact isRounding_of_unpack_zero product
    · rw [unpacked_pos hn] at product
      have within := mul_le_scaledPlace (isFinite_of_parts xParts) (isFinite_of_parts yParts) hm hn
      have stands : Stands (ExtendedMantissa.ofMantissaAndAccuracy (m * n) .exact)
          ((m * n : ℕ) / (1 : ℕ) * 2 ^ (e + f) / 2 ^ (e + f)) := by
        rw [Nat.cast_one, div_one, mul_div_cancel_right₀ _ (two_zpow_pos _).ne']
        exact stands_exact (m * n)
      have exact : (Parts.finite false m e).value * (Parts.finite false n f).value =
          (m * n : ℕ) / (1 : ℕ) * 2 ^ (e + f) := by
        change (m * 2 ^ e * (n * 2 ^ f) : ℚ) = _
        rw [Nat.cast_mul, Nat.cast_one, div_one, zpow_add₀ two_ne_zero]
        ring
      rw [exact]
      exact isRounding_scaled (Nat.mul_pos hm hn) one_pos stands within product

/-! Quotients. -/

/-- The place that a quotient is computed to, which is not beyond the last one that is kept. -/
def quotientPlace (m : ℕ) (e : ℤ) (n : ℕ) (f : ℤ) : ℤ :=
  min (e - f) (Format.binary64.targetExponent (totalExponent m e - totalExponent n f))

theorem quotientPlace_le_scaledPlace {m n : ℕ} (e f : ℤ) (hm : 0 < m) (hn : 0 < n) :
    quotientPlace m e n f ≤ scaledPlace m n (e - f) := by
  obtain ⟨top, -, high, place⟩ := exists_scaledPlace_eq (e := e - f) hm hn
  have low := (mul_lt_mul_iff_left₀ (two_zpow_pos (e - f))).2 (two_zpow_log2_sub_lt hm hn).1
  rw [← zpow_add₀ two_ne_zero] at low
  have := two_zpow_lt_iff.1 (low.trans high)
  rw [quotientPlace, targetExponent_eq, totalExponent, totalExponent]
  omega

theorem stands_quotient {m n : ℕ} (e f : ℤ) (hn : 0 < n) : Stands
    (ExtendedMantissa.ofMantissaAndAccuracy ((m <<< (e - f - quotientPlace m e n f).toNat) / n)
      (accuracyOfFraction ((m <<< (e - f - quotientPlace m e n f).toNat) % n) n))
    (m / n * 2 ^ (e - f) / 2 ^ quotientPlace m e n f) := by
  have within : quotientPlace m e n f ≤ e - f := min_le_left _ _
  generalize quotientPlace m e n f = place at *
  obtain ⟨k, shift⟩ := Int.eq_ofNat_of_zero_le (sub_nonneg.2 within)
  have exponent : e - f = k + place := by omega
  have quotient := stands_div (m <<< (e - f - place).toNat) hn
  rw [shift, Int.toNat_natCast] at quotient ⊢
  rw [exponent, zpow_add₀ two_ne_zero, ← mul_assoc, mul_div_cancel_right₀ _ (two_zpow_pos place).ne',
    zpow_natCast, div_mul_eq_mul_div]
  rw [Nat.shiftLeft_eq] at quotient ⊢
  push_cast at quotient
  exact quotient

theorem isRounding_div {x y : Float} (hx : x.isFinite = true) (hy : y.isFinite = true)
    (xPlus : ¬HasMinus x) (pos : 0.0 < y) :
    IsRounding ((parts x).value / (parts y).value) (x / y) := by
  obtain ⟨m, e, xParts⟩ := exists_parts_of_plus hx xPlus
  obtain ⟨n, f, yParts, hn⟩ := exists_parts_of_pos hy pos
  have quotient : (x / y).toModel.unpack = UnpackedFloat.unpack .binary64
      (UnpackedFloat.pack .binary64 (UnpackedFloat.div .binary64 x.toModel.unpack y.toModel.unpack)) := rfl
  rw [unpack_eq_parts x, unpack_eq_parts y, xParts, yParts, unpacked_pos hn] at quotient
  rw [xParts, yParts]
  rcases Nat.eq_zero_or_pos m with rfl | hm
  · rw [value_zero, zero_div]
    exact isRounding_of_unpack_zero quotient
  · rw [unpacked_pos hm] at quotient
    have exact : (Parts.finite false m e).value / (Parts.finite false n f).value =
        m / n * 2 ^ (e - f) := by
      change (m * 2 ^ e / (n * 2 ^ f) : ℚ) = _
      rw [zpow_sub₀ two_ne_zero, div_mul_div_comm]
    rw [exact]
    exact isRounding_scaled hm hn (stands_quotient e f hn) (quotientPlace_le_scaledPlace e f hm hn) quotient

theorem div_self_eq_one {x : Float} (finite : x.isFinite = true) (pos : 0.0 < x) : x / x = 1.0 := by
  have quotient := isRounding_div finite finite (not_hasMinus_of_pos finite pos) pos
  rw [div_self (value_pos_of_pos finite pos).ne'] at quotient
  have one : parts (1.0 : Float) = .finite false unitBit (-52) := by decide +kernel
  have value : (parts (1.0 : Float)).value = 1 := by
    rw [one]
    change (unitBit * 2 ^ (-52 : ℤ) : ℚ) = 1
    rw [unitBit]
    norm_num
  have self := isRounding_self (x := (1.0 : Float)) (by decide +kernel) (by decide +kernel)
  rw [value] at self
  exact quotient.unique self

end Outlay.Binary64
