import Outlay.Proofs.Binary64.Rounding

/-!
# Signs of quotients

Products with and quotients by what is positive keep the sign of a number, down to a zero, and so
does rounding to whole numbers. What has a sign is a number, an infinity at most.
-/

namespace Outlay.Binary64

open Float.Model UnpackedFloat

theorem le_zero_iff {x : Float} : x ≤ 0.0 ↔ HasSign .negative x.toModel.unpack := by
  rw [le_iff_compare, unpack_zero]
  cases x.toModel.unpack with
  | notANumber => simp [HasSign, UnpackedFloat.compare]
  | zero s => simp [HasSign, UnpackedFloat.compare]
  | infinity s => cases s <;> simp [HasSign, UnpackedFloat.compare]
  | finite s => cases s <;> simp [HasSign, UnpackedFloat.compare]

theorem isNaN_eq_false_of_hasSign {s : Sign} {x : Float} (h : HasSign s x.toModel.unpack) :
    x.isNaN = false := by
  have unpacked : x.isNaN = x.toModel.unpack.isNaN := rfl
  rw [unpacked]
  cases same : x.toModel.unpack with
  | notANumber =>
    rw [same] at h
    exact h.elim
  | _ => rfl

/-- Only zeros have both signs. -/
theorem beq_zero_of_hasSign {x : Float} (positive : HasSign .positive x.toModel.unpack)
    (negative : HasSign .negative x.toModel.unpack) : (x == 0.0) = true := by
  have beq : (x == 0.0) = (x.toModel.unpack.compare (0.0 : Float).toModel.unpack == some .eq) := rfl
  rw [beq, unpack_zero]
  cases same : x.toModel.unpack with
  | notANumber =>
    rw [same] at positive
    exact positive.elim
  | zero s => rfl
  | infinity s | finite s =>
    rw [same] at positive negative
    have sign : s = .positive := positive
    have sign' : s = .negative := negative
    rw [sign] at sign'
    cases sign'

theorem exists_unpack_of_pos {y : Float} (pos : 0.0 < y) (finite : y.isFinite = true) :
    ∃ n f hn, y.toModel.unpack = .finite .positive n f hn := by
  rw [lt_iff_compare, unpack_zero] at pos
  have finite' : y.toModel.unpack.isFinite = true := finite
  cases unpacked : y.toModel.unpack with
  | finite s n f hn =>
    rw [unpacked] at pos
    cases s with
    | positive => exact ⟨n, f, hn, rfl⟩
    | negative => cases pos
  | zero s =>
    rw [unpacked] at pos
    cases pos
  | infinity | notANumber =>
    rw [unpacked] at finite'
    cases finite'

theorem hasSign_mul_div {s : Sign} {u : UnpackedFloat} (sign : HasSign s u) {n : ℕ} (f : ℤ)
    (hn : 0 < n) :
    HasSign s (UnpackedFloat.mul .binary64 u (.finite .positive n f hn)) ∧
      HasSign s (UnpackedFloat.div .binary64 u (.finite .positive n f hn)) := by
  cases u with
  | notANumber => exact sign.elim
  | zero t => exact ⟨trivial, trivial⟩
  | infinity t =>
    obtain rfl : t = s := sign
    cases t <;> exact ⟨rfl, rfl⟩
  | finite t m e hm =>
    obtain rfl : t = s := sign
    cases t <;> exact ⟨hasSign_roundWithAccuracy _ _ _ _, hasSign_roundWithAccuracy _ _ _ _⟩

section

variable {s : Sign} {x y : Float} (sign : HasSign s x.toModel.unpack) (pos : 0.0 < y)
  (finite : y.isFinite = true)

include sign pos finite

theorem hasSign_mul : HasSign s (x * y).toModel.unpack := by
  obtain ⟨n, f, hn, factor⟩ := exists_unpack_of_pos pos finite
  change HasSign s (UnpackedFloat.unpack .binary64
    (UnpackedFloat.pack .binary64 (UnpackedFloat.mul .binary64 x.toModel.unpack y.toModel.unpack)))
  rw [factor]
  exact hasSign_unpack_pack (hasSign_mul_div sign f hn).1

theorem hasSign_div : HasSign s (x / y).toModel.unpack := by
  obtain ⟨n, f, hn, divisor⟩ := exists_unpack_of_pos pos finite
  change HasSign s (UnpackedFloat.unpack .binary64
    (UnpackedFloat.pack .binary64 (UnpackedFloat.div .binary64 x.toModel.unpack y.toModel.unpack)))
  rw [divisor]
  exact hasSign_unpack_pack (hasSign_mul_div sign f hn).2

end

theorem hasSign_unpacked (negative : Bool) (m : ℕ) (e : ℤ) :
    HasSign (signOf negative) (Parts.finite negative m e).unpacked := by
  unfold Parts.unpacked
  simp only
  split
  · rfl
  · trivial

theorem hasSign_ofMagnitude (negative : Bool) {word : ℕ} (h : word ≤ 2047 * unitBit) :
    HasSign (signOf negative) (ofMagnitude negative word).toModel.unpack := by
  rw [unpack_eq_parts]
  rcases Nat.lt_or_eq_of_le h with finite | rfl
  · rw [parts_ofMagnitude negative finite]
    split <;> exact hasSign_unpacked _ _ _
  · rw [parts_ofMagnitude_full]
    rfl

theorem hasSign_roundHalfAway {s : Sign} {x : Float} (sign : HasSign s x.toModel.unpack) :
    HasSign s (roundHalfAway x).toModel.unpack := by
  unfold roundHalfAway
  split
  next negative m e eq =>
    split
    next => exact sign
    next =>
      have known := sign
      rw [unpack_eq_parts, eq, Parts.unpacked] at known
      split at known
      next pos =>
        obtain rfl : signOf negative = s := known
        exact hasSign_ofMagnitude negative (magnitude_le _ _)
      next none =>
        obtain rfl : m = 0 := by omega
        have unit_pos : 0 < Nat.pow 2 (-e).toNat := Nat.pow_pos (by decide)
        have zero : (2 * 0 + Nat.pow 2 (-e).toNat) / (2 * Nat.pow 2 (-e).toNat) = 0 :=
          Nat.div_eq_of_lt (by omega)
        have word : magnitude 0 1 = 0 := rfl
        simp only [zero, nearest, word]
        rw [unpack_eq_parts, parts_ofMagnitude negative (by decide)]
        trivial
  next => exact sign

end Outlay.Binary64
