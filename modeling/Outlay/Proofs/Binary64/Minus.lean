import Outlay.Proofs.Binary64.Range

/-!
# Sums without a minus

A sum of floats of which none has its sign bit set has none set either. So only an empty sum, which is
negative zero, has a minus.
-/

namespace Outlay.Binary64

open Float.Model UnpackedFloat

/-- The sign bit is set, as that of `-0.0` is. -/
def HasMinus (x : Float) : Prop := signBit ≤ x.toBits.toNat

instance (x : Float) : Decidable (HasMinus x) := inferInstanceAs (Decidable (_ ≤ _))

theorem hasMinus_iff {x : Float} {negative : Bool} (sign : negative = decide (signBit ≤ x.toBits.toNat)) :
    negative = true ↔ HasMinus x := by
  rw [sign, decide_eq_true_eq]
  rfl

/-- Positive, be it as a zero, or no number. -/
def HasPlus : UnpackedFloat → Prop
  | .zero s | .infinity s | .finite s .. => s = .positive
  | .notANumber => True

theorem signOf_eq_positive_iff {negative : Bool} : signOf negative = .positive ↔ ¬negative = true := by
  cases negative <;> simp [signOf]

theorem not_hasMinus_iff {x : Float} : ¬HasMinus x ↔ HasPlus x.toModel.unpack := by
  rw [unpack_eq_parts]
  cases eq : parts x with
  | nan =>
    rw [eq_nan_of_parts eq]
    exact iff_of_true (by decide +kernel) trivial
  | infinite negative =>
    change _ ↔ signOf negative = .positive
    rw [signOf_eq_positive_iff, hasMinus_iff (negative_of_infinite eq)]
  | finite negative m e =>
    have sign : HasPlus (Parts.finite negative m e).unpacked ↔ signOf negative = .positive := by
      unfold Parts.unpacked
      simp only
      split <;> rfl
    rw [sign, signOf_eq_positive_iff, hasMinus_iff (negative_of_parts eq)]

/-! Sums. -/

theorem hasPlus_unpack_packComponents (e : BitVec 11) (m : BitVec 52) :
    HasPlus (UnpackedFloat.unpack .binary64 (packComponents .binary64 .positive e m)) := by
  unfold UnpackedFloat.unpack
  simp only [unpackMantissa_packComponents, unpackExponent_packComponents,
    unpackSign_packComponents, Sign.ofBitVec_toBitVec]
  split
  next => split <;> trivial
  next =>
    split
    next => split <;> rfl
    next => rfl

theorem hasPlus_unpack_pack {u : UnpackedFloat} (h : HasPlus u) :
    HasPlus (UnpackedFloat.unpack .binary64 (UnpackedFloat.pack .binary64 u)) := by
  cases u with
  | notANumber => exact hasPlus_unpack_packComponents _ _
  | zero s | infinity s =>
    obtain rfl : s = .positive := h
    exact hasPlus_unpack_packComponents _ _
  | finite s m e pos =>
    obtain rfl : s = .positive := h
    unfold UnpackedFloat.pack
    simp only
    split
    next => exact hasPlus_unpack_packComponents _ _
    next => split <;> exact hasPlus_unpack_packComponents _ _

theorem hasPlus_normalize {k : ℤ} (h : 0 ≤ k) (e : ℤ) :
    HasPlus (UnpackedFloat.normalize .binary64 k e .positive) := by
  unfold UnpackedFloat.normalize
  split
  next below => exact absurd (Int.compare_eq_lt.1 below) (not_lt.2 h)
  next => rfl
  next =>
    unfold UnpackedFloat.round roundWithAccuracy
    simp only
    split <;> rfl

theorem hasPlus_add {u v : UnpackedFloat} (hu : HasPlus u) (hv : HasPlus v) :
    HasPlus (UnpackedFloat.add .binary64 u v) := by
  cases u with
  | notANumber => cases v <;> trivial
  | zero s =>
    obtain rfl : s = .positive := hu
    cases v with
    | notANumber => trivial
    | zero t | infinity t | finite t =>
      obtain rfl : t = .positive := hv
      rfl
  | infinity s =>
    obtain rfl : s = .positive := hu
    cases v with
    | notANumber => trivial
    | zero t | infinity t | finite t =>
      obtain rfl : t = .positive := hv
      rfl
  | finite s m e pos =>
    obtain rfl : s = .positive := hu
    cases v with
    | notANumber => trivial
    | zero t | infinity t =>
      obtain rfl : t = .positive := hv
      rfl
    | finite t n f pos' =>
      obtain rfl : t = .positive := hv
      exact hasPlus_normalize (Int.add_nonneg (Int.natCast_nonneg _) (Int.natCast_nonneg _)) _

theorem not_hasMinus_add {x y : Float} (hx : ¬HasMinus x) (hy : ¬HasMinus y) : ¬HasMinus (x + y) := by
  rw [not_hasMinus_iff] at *
  exact hasPlus_unpack_pack (hasPlus_add hx hy)

theorem hasPlus_add_zero {u : UnpackedFloat} (hu : HasPlus u) (s : Sign) :
    HasPlus (UnpackedFloat.add .binary64 u (.zero s)) := by
  cases u with
  | notANumber => trivial
  | zero t =>
    obtain rfl : t = .positive := hu
    cases s <;> rfl
  | infinity | finite => exact hu

/-- Negative zero, which is not below zero either, leaves no minus. -/
theorem not_hasMinus_add_of_zero_le {x y : Float} (hx : ¬HasMinus x) (hy : 0.0 ≤ y) : ¬HasMinus (x + y) := by
  by_cases minus : HasMinus y
  · rw [eq_negZero_of_signBit_le hy minus]
    rw [not_hasMinus_iff] at *
    change HasPlus (UnpackedFloat.unpack .binary64 (UnpackedFloat.pack .binary64
      (UnpackedFloat.add .binary64 x.toModel.unpack (-0.0 : Float).toModel.unpack)))
    rw [unpack_negZero]
    exact hasPlus_unpack_pack (hasPlus_add_zero hx .negative)
  · exact not_hasMinus_add hx minus

/-- What has no minus and is a number is not below zero. -/
theorem zero_le_of_not_hasMinus {x : Float} (plus : ¬HasMinus x) (number : x.isNaN = false) : 0.0 ≤ x := by
  rw [not_hasMinus_iff] at plus
  have unpacked : x.isNaN = x.toModel.unpack.isNaN := rfl
  rw [unpacked] at number
  rw [zero_le_iff]
  cases same : x.toModel.unpack with
  | notANumber =>
    rw [same] at number
    cases number
  | zero s => trivial
  | infinity s | finite s =>
    rw [same] at plus
    exact plus

end Outlay.Binary64
