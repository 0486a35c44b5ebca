import Outlay.Proofs.Binary64.Order
import Outlay.Proofs.Binary64.Parts

/-!
# The range of floats

A number below the middle between the largest float and the next power of two rounds to a float that
is finite, and the word of a float starts with the sign it was rounded under.
-/

namespace Outlay.Binary64

open Float.Model UnpackedFloat

/-! Words and their signs. -/

/-- A word with a full scale stands for infinity or for what is no number. -/
theorem toBits_ofBits {w : UInt64} (h : w.toNat / unitBit % 2048 = 2047 → w.toNat % unitBit = 0) :
    (Float.ofBits w).toBits = w := by
  have valid : Format.binary64.Valid w.toBitVec := by
    refine ⟨fun full nonzero => absurd ?_ nonzero⟩
    have scale := congrArg BitVec.toNat full
    unfold unpackExponent at scale
    rw [BitVec.toNat_cast, BitVec.extractLsb_toNat, Nat.shiftRight_eq_div_pow] at scale
    apply BitVec.eq_of_toNat_eq
    rw [toNat_unpackMantissa]
    exact h scale
  have bits := pack_unpack_of_valid valid
  exact UInt64.toBitVec_inj.1 bits

theorem toBits_ofMagnitude (negative : Bool) {word : ℕ} (h : word ≤ 2047 * unitBit) :
    (ofMagnitude negative word).toBits.toNat = if negative then signBit + word else word := by
  rw [unitBit] at h
  have size : (if negative then signBit + word else word) < UInt64.size := by
    rw [signBit]
    split <;> change _ < 18446744073709551616 <;> omega
  have same := UInt64.toNat_ofNat_of_lt' size
  rw [ofMagnitude, toBits_ofBits, same]
  rw [same, unitBit, signBit]
  split <;> omega

theorem parts_ofMagnitude (negative : Bool) {word : ℕ} (h : word < 2047 * unitBit) :
    parts (ofMagnitude negative word) =
      if word / unitBit = 0 then .finite negative word (-1074)
      else .finite negative (unitBit + word % unitBit) ((word / unitBit : ℕ) - 1075) := by
  have bits := toBits_ofMagnitude negative h.le
  have sign : decide (signBit ≤ (ofMagnitude negative word).toBits.toNat) = negative := by
    rw [bits]
    rw [unitBit] at h
    rw [signBit]
    cases negative
    · simp only [Bool.false_eq_true, if_false, decide_eq_false_iff_not]
      omega
    · simp
  have scale : (ofMagnitude negative word).toBits.toNat / unitBit % 2048 = word / unitBit := by
    rw [bits]
    rw [unitBit] at *
    rw [signBit]
    split <;> omega
  have fraction : (ofMagnitude negative word).toBits.toNat % unitBit = word % unitBit := by
    rw [bits]
    rw [unitBit] at *
    rw [signBit]
    split <;> omega
  have notFull : word / unitBit ≠ 2047 := by
    rw [unitBit] at *
    omega
  unfold parts
  simp only [sign, scale, fraction, if_neg notFull]
  split
  next zero =>
    congr 1
    rw [unitBit] at *
    omega
  next => rfl

theorem parts_ofMagnitude_full (negative : Bool) :
    parts (ofMagnitude negative (2047 * unitBit)) = .infinite negative := by
  cases negative <;> decide +kernel

/-- The word of a mantissa and an exponent. -/
theorem parts_ofMagnitude_eq {m : ℕ} {e : ℤ} (negative : Bool) (float : IsFinite m e) :
    parts (ofMagnitude negative ((e + 1074).toNat * unitBit + m)) = .finite negative m e := by
  obtain ⟨lt, least, greatest, normal⟩ := float
  have bound : (e + 1074).toNat * unitBit + m < 2047 * unitBit := by
    rw [unitBit] at *
    omega
  rw [parts_ofMagnitude negative bound]
  rw [unitBit] at *
  split
  · obtain rfl : e = -1074 := by omega
    simp
  · congr 1 <;> omega

/-- The float under the other sign. -/
theorem neg_ofMagnitude {word : ℕ} (h : word ≤ 2047 * unitBit) :
    -ofMagnitude false word = ofMagnitude true word := by
  rw [← pack_unpack_toModel (ofMagnitude true word)]
  have turned : (ofMagnitude true word).toModel.unpack = (ofMagnitude false word).toModel.unpack.neg := by
    rw [unpack_eq_parts, unpack_eq_parts]
    rcases Nat.lt_or_eq_of_le h with finite | rfl
    · rw [parts_ofMagnitude true finite, parts_ofMagnitude false finite]
      split
      · unfold Parts.unpacked
        simp only
        split <;> rfl
      · unfold Parts.unpacked
        simp only
        split <;> rfl
    · rw [parts_ofMagnitude_full, parts_ofMagnitude_full]
      rfl
  rw [turned]
  rfl

theorem isFinite_ofMagnitude (negative : Bool) {word : ℕ} (h : word < 2047 * unitBit) :
    (ofMagnitude negative word).isFinite = true := by
  have eq := parts_ofMagnitude negative h
  split at eq
  · exact isFinite_eq_true_of_parts eq
  · exact isFinite_eq_true_of_parts eq

theorem magnitude_le (num den : ℕ) : magnitude num den ≤ 2047 * unitBit := by
  unfold magnitude
  split
  · exact Nat.zero_le _
  · exact Nat.min_le_right _ _

/-- Only negative zero is at least zero under a minus. -/
theorem eq_negZero_of_signBit_le {x : Float} (unsigned : 0.0 ≤ x) (minus : signBit ≤ x.toBits.toNat) :
    x = -0.0 := by
  have shape := zero_le_iff.1 unsigned
  apply eq_of_unpack_eq
  rw [unpack_negZero]
  rw [unpack_eq_parts] at shape ⊢
  cases eq : parts x with
  | nan =>
    rw [eq] at shape
    exact shape.elim
  | infinite negative =>
    obtain rfl : negative = true := (negative_of_infinite eq).trans (decide_eq_true minus)
    rw [eq] at shape
    cases shape
  | finite negative m e =>
    obtain rfl : negative = true := (negative_of_parts eq).trans (decide_eq_true minus)
    rw [eq, Parts.unpacked] at shape
    rw [Parts.unpacked]
    split at shape
    next => cases shape
    next zero =>
      rw [dif_neg zero]
      rfl

/-! What is no finite number. -/

theorem unpack_infinity : (1.0 / 0.0 : Float).toModel.unpack = .infinity .positive := by
  have word : (1.0 / 0.0 : Float).toModel.toBits = 0x7ff0000000000000 := by decide +kernel
  unfold Float.Model.unpack
  rw [word]
  rfl

theorem unpack_nan : (0.0 / 0.0 : Float).toModel.unpack = .notANumber := by
  have word : (0.0 / 0.0 : Float).toModel.toBits = 0x7ff8000000000000 := by decide +kernel
  unfold Float.Model.unpack
  rw [word]
  rfl

theorem lt_infinity_of_isFinite {x : Float} (h : x.isFinite = true) : x < 1.0 / 0.0 := by
  rw [lt_iff_compare, unpack_infinity]
  unfold Float.isFinite Float.Model.isFinite at h
  cases unpacked : x.toModel.unpack with
  | zero sign => rfl
  | finite sign => cases sign <;> rfl
  | infinity | notANumber =>
    rw [unpacked] at h
    cases h

theorem eq_infinity_of_parts {x : Float} {negative : Bool} (h : parts x = .infinite negative) :
    infinity negative = x := by
  apply ofMagnitude_toBits
  rw [toBits_eq x]
  unfold parts at h
  simp only at h
  split at h
  next full =>
    split at h
    next none =>
      cases h
      simp only [full, none, decide_eq_true_eq]
      rfl
    next => cases h
  next => split at h <;> cases h

theorem eq_nan_of_parts {x : Float} (h : parts x = .nan) : x = 0.0 / 0.0 := by
  apply eq_of_unpack_eq
  rw [unpack_nan, unpack_eq_parts, h]
  rfl

/-! The largest numbers that round to a float. -/

/-- The middle between the largest float and the power of two behind it. -/
def overflow : ℚ := 2 ^ (1024 : ℤ) - 2 ^ (970 : ℤ)

theorem divHalfEven_lastPlace_le {num den : ℕ} (den_pos : 0 < den) (r : ℕ)
    (below : (num / den : ℚ) < (r + 1 / 2) * 2 ^ lastPlace num den) :
    divHalfEven (num * Nat.pow 2 (-lastPlace num den).toNat)
      (den * Nat.pow 2 (lastPlace num den).toNat) ≤ r := by
  have unit_pos : 0 < den * Nat.pow 2 (lastPlace num den).toNat :=
    Nat.mul_pos den_pos (Nat.pow_pos (by decide))
  apply divHalfEven_le unit_pos
  rwa [scaled_div, div_lt_iff₀ (two_zpow_pos _)]

/-- The mantissa that a quotient is rounded to, before it may carry. -/
def rounded (num den : ℕ) : ℕ :=
  divHalfEven (num * Nat.pow 2 (-lastPlace num den).toNat) (den * Nat.pow 2 (lastPlace num den).toNat)

theorem magnitude_of_pos {num : ℕ} (num_pos : 0 < num) (den : ℕ) :
    magnitude num den =
      min ((lastPlace num den + 1074).toNat * unitBit + rounded num den) (2047 * unitBit) :=
  if_neg num_pos.ne'

theorem exists_lastPlace_eq {num den : ℕ} (num_pos : 0 < num) (den_pos : 0 < den) :
    ∃ top : ℤ, (2 : ℚ) ^ top ≤ num / den ∧ (num / den : ℚ) < 2 ^ (top + 1) ∧
      lastPlace num den = max (top - 52) (-1074) := by
  have positive : (0 : ℚ) < num / den := div_pos (Nat.cast_pos.2 num_pos) (Nat.cast_pos.2 den_pos)
  obtain ⟨top, low, high⟩ := exists_mem_Ico_zpow positive (show (1 : ℚ) < 2 by norm_num)
  exact ⟨top, low, high, lastPlace_eq num_pos den_pos low high⟩

theorem rounded_le {num den : ℕ} (num_pos : 0 < num) (den_pos : 0 < den) :
    rounded num den ≤ 2 * unitBit := by
  obtain ⟨top, -, high, place⟩ := exists_lastPlace_eq num_pos den_pos
  apply divHalfEven_lastPlace_le den_pos
  calc (num / den : ℚ) < 2 ^ (top + 1) := high
    _ ≤ 2 ^ (53 + lastPlace num den) := zpow_le_zpow_right₀ (by norm_num) (by omega)
    _ = 2 ^ 53 * 2 ^ lastPlace num den := by
      rw [zpow_add₀ two_ne_zero]
      rfl
    _ ≤ _ := by
      refine mul_le_mul_of_nonneg_right ?_ (two_zpow_pos _).le
      rw [unitBit]
      norm_num

/-- In the binade of the largest float, the middle behind it. -/
theorem overflow_eq : overflow = (2 * unitBit - 1 / 2) * 2 ^ (971 : ℤ) := by
  have power : (2 : ℚ) ^ (1024 : ℤ) = 2 ^ 54 * 2 ^ (970 : ℤ) := zpow_add₀ two_ne_zero 54 970
  have unit : (2 : ℚ) ^ (971 : ℤ) = 2 * 2 ^ (970 : ℤ) := zpow_add₀ two_ne_zero 1 970
  rw [overflow, power, unit, unitBit]
  generalize (2 : ℚ) ^ (970 : ℤ) = last
  norm_num
  ring

theorem magnitude_lt {num den : ℕ} (den_pos : 0 < den) (h : (num / den : ℚ) < overflow) :
    magnitude num den < 2047 * unitBit := by
  rcases Nat.eq_zero_or_pos num with rfl | num_pos
  · have zero : magnitude 0 den = 0 := if_pos rfl
    rw [zero]
    decide
  · obtain ⟨top, low, high, place⟩ := exists_lastPlace_eq num_pos den_pos
    have top_lt : top < 1024 := by
      refine two_zpow_lt_iff.1 (low.trans_lt (h.trans ?_))
      exact sub_lt_self _ (two_zpow_pos 970)
    have word := magnitude_of_pos num_pos den
    rcases lt_or_eq_of_le (show top ≤ 1023 by omega) with below | last
    · have mantissa := rounded_le num_pos den_pos
      rw [unitBit] at *
      omega
    · -- In the binade of the largest float the mantissa must not round up.
      have exponent : lastPlace num den = 971 := by omega
      have mantissa : rounded num den ≤ 2 * unitBit - 1 := by
        apply divHalfEven_lastPlace_le den_pos
        rw [exponent]
        refine h.trans_eq (overflow_eq.trans (congrArg (· * (2 : ℚ) ^ (971 : ℤ)) ?_))
        rw [unitBit]
        norm_num
      rw [exponent] at word
      simp only [unitBit] at mantissa word ⊢
      omega

theorem isFinite_nearest (negative : Bool) {num den : ℕ} (den_pos : 0 < den)
    (h : (num / den : ℚ) < overflow) : (nearest negative num den).isFinite = true :=
  isFinite_ofMagnitude negative (magnitude_lt den_pos h)

theorem two_zpow_le_overflow : 2 ^ (970 : ℤ) ≤ overflow := by
  have double : (2 : ℚ) ^ (971 : ℤ) = 2 * 2 ^ (970 : ℤ) := zpow_add₀ two_ne_zero 1 970
  have larger : (2 : ℚ) ^ (971 : ℤ) ≤ 2 ^ (1024 : ℤ) :=
    zpow_le_zpow_right₀ (by norm_num) (by norm_num)
  rw [overflow, le_sub_iff_add_le, ← two_mul, ← double]
  exact larger

theorem overflow_pos : 0 < overflow := (two_zpow_pos 970).trans_le two_zpow_le_overflow

end Outlay.Binary64
