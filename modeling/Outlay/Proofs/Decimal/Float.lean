import Outlay.Decimal
import Outlay.Proofs.Binary64.Rounding

/-!
# Decimals as floats

The float of a decimal is the one next to it. That numbers far out of the range of floats are not
computed makes no difference (`toFloat_eq_nearest`).
-/

namespace Outlay.Decimal

open Binary64

/-- The size of a decimal. -/
def size (d : Decimal) : ℚ := d.digits * 10 ^ d.exponent

theorem two_pow_lt_ten_pow {a b : ℕ} (h : 2 ^ a < 10 ^ b) : (2 : ℚ) ^ (a : ℤ) < 10 ^ (b : ℤ) := by
  rw [zpow_natCast, zpow_natCast]
  exact_mod_cast h

theorem two_zpow_lt_size {d : Decimal} (digits_pos : 0 < d.digits) (large : 310 ≤ d.exponent) :
    (2 : ℚ) ^ (1024 : ℤ) < d.size := by
  have digits : (1 : ℚ) ≤ d.digits := Nat.one_le_cast.2 digits_pos
  calc (2 : ℚ) ^ ((1024 : ℕ) : ℤ) < 10 ^ ((310 : ℕ) : ℤ) := two_pow_lt_ten_pow (by decide +kernel)
    _ ≤ 10 ^ d.exponent := zpow_le_zpow_right₀ (by norm_num) large
    _ ≤ d.digits * 10 ^ d.exponent := le_mul_of_one_le_left (by positivity) digits

theorem size_lt_two_zpow {d : Decimal} (small : d.exponent < -(400 + d.digits.log2 : ℤ)) :
    d.size < 2 ^ (-1075 : ℤ) := by
  have apart := two_pow_lt_ten_pow (a := 1075) (b := 400) (by decide +kernel)
  calc d.size = d.digits * 10 ^ d.exponent := rfl
    _ < 2 ^ (d.digits.log2 + 1 : ℤ) * 10 ^ d.exponent :=
        mul_lt_mul_of_pos_right (lt_two_zpow_log2 _) (by positivity)
    _ ≤ 10 ^ (d.digits.log2 + 1 : ℤ) * 10 ^ d.exponent :=
        mul_le_mul_of_nonneg_right (zpow_le_zpow_left₀ (by omega) (by norm_num) (by norm_num))
          (by positivity)
    _ = 10 ^ (d.digits.log2 + 1 + d.exponent : ℤ) := (zpow_add₀ (by norm_num) _ _).symm
    _ ≤ 10 ^ (-((400 : ℕ) : ℤ)) := zpow_le_zpow_right₀ (by norm_num) (by omega)
    _ < 2 ^ (-((1075 : ℕ) : ℤ)) := by
        rw [zpow_neg, zpow_neg]
        exact inv_strictAnti₀ (two_zpow_pos _) apart

/-- The quotient that a decimal is rounded as. -/
theorem quotient_eq_size (d : Decimal) :
    ((d.digits * Nat.pow 10 d.exponent.toNat : ℕ) : ℚ) / (Nat.pow 10 (-d.exponent).toNat : ℕ) =
      d.size := by
  have quotient := pow_toNat_div_pow_toNat 10 d.exponent
  rw [Nat.cast_ofNat] at quotient
  rw [Nat.cast_mul, mul_div_assoc, quotient]
  rfl

/-- The cut-offs agree with what the rounding would give. -/
theorem toFloat_eq_nearest (d : Decimal) :
    d.toFloat = nearest d.negative (d.digits * Nat.pow 10 d.exponent.toNat)
      (Nat.pow 10 (-d.exponent).toNat) := by
  have unit_pos : 0 < Nat.pow 10 (-d.exponent).toNat := Nat.pow_pos (by decide)
  have quotient := quotient_eq_size d
  unfold toFloat
  split
  next zero => rw [zero, Nat.zero_mul, nearest, nearest, magnitude, magnitude, if_pos rfl, if_pos rfl]
  next nonzero =>
    have digits_pos := Nat.pos_of_ne_zero nonzero
    split
    next large =>
      have beyond := (sub_lt_self _ (two_zpow_pos 970)).trans (two_zpow_lt_size digits_pos large)
      rw [nearest, infinity, magnitude_eq_of_overflow_le unit_pos (quotient ▸ beyond.le)]
    next =>
      split
      next small =>
        have num_pos : 0 < d.digits * Nat.pow 10 d.exponent.toNat :=
          Nat.mul_pos digits_pos (Nat.pow_pos (by decide))
        rw [nearest, nearest, magnitude_eq_zero num_pos unit_pos (quotient ▸ size_lt_two_zpow small)]
        rfl
      next => rfl

theorem isFinite_toFloat {d : Decimal} (h : d.size < overflow) : d.toFloat.isFinite = true := by
  have unit_pos : 0 < Nat.pow 10 (-d.exponent).toNat := Nat.pow_pos (by decide)
  rw [toFloat_eq_nearest]
  apply isFinite_nearest d.negative unit_pos
  rw [quotient_eq_size]
  exact h

theorem isRounding_toFloat {d : Decimal} (unsigned : d.negative = false) :
    IsRounding d.size d.toFloat := by
  rw [toFloat_eq_nearest, unsigned, ← quotient_eq_size]
  exact isRounding_nearest (Nat.pow_pos (by decide))

theorem toBits_toFloat_lt {d : Decimal} (unsigned : d.negative = false) :
    d.toFloat.toBits.toNat < signBit :=
  (isRounding_toFloat unsigned).unsigned

/-- The float of a number with a minus. -/
theorem neg_toFloat (digits : ℕ) (exponent : ℤ) :
    -toFloat ⟨false, digits, exponent⟩ = toFloat ⟨true, digits, exponent⟩ := by
  rw [toFloat_eq_nearest, toFloat_eq_nearest]
  exact neg_ofMagnitude (magnitude_le _ _)

/-! Decimals that name a float. -/

section

variable {x : Float} {negative : Bool} {m : ℕ} {e : ℤ} {d : Decimal}
  (parts : parts x = .finite negative m e) (sign : d.negative = negative)

include parts sign

theorem toFloat_eq_of_rounds (pos : 0 < m) (rounds : Rounds d.size m e) : d.toFloat = x := by
  have unit_pos : 0 < Nat.pow 10 (-d.exponent).toNat := Nat.pow_pos (by decide)
  rw [toFloat_eq_nearest, sign]
  apply nearest_eq parts unit_pos pos
  rw [quotient_eq_size]
  exact rounds

theorem toFloat_eq_of_zero (zero : m = 0) (digits : d.digits = 0) : d.toFloat = x := by
  rw [toFloat, if_pos digits, sign]
  exact nearest_zero parts zero

end

end Outlay.Decimal
