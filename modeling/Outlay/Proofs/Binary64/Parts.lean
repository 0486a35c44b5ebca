import Outlay.Proofs.Binary64.Addition
import Outlay.Proofs.Binary64.Nearest

/-!
# The parts of floats

A float is unpacked into its parts, and they make up its word. So a number that rounds to a finite
float gives it back.
-/

namespace Outlay.Binary64

open Float.Model UnpackedFloat

/-! Unpacking. -/

theorem toNat_unpackExponent (x : Float) :
    (@unpackExponent .binary64 x.toModel.toBits.toBitVec).toNat =
      x.toBits.toNat / unitBit % 2048 := by
  unfold unpackExponent
  rw [BitVec.toNat_cast, BitVec.extractLsb_toNat, Nat.shiftRight_eq_div_pow]
  rfl

theorem toNat_unpackMantissa (b : BitVec 64) :
    (@unpackMantissa .binary64 b).toNat = b.toNat % unitBit := by
  unfold unpackMantissa
  rw [BitVec.toNat_cast, BitVec.extractLsb_toNat, Nat.shiftRight_zero]
  rfl

theorem toNat_unpackSign (b : BitVec 64) :
    (@unpackSign .binary64 b).toNat = b.toNat / signBit := by
  have size := b.isLt
  unfold unpackSign
  rw [BitVec.toNat_cast, BitVec.extractLsb_toNat, Nat.shiftRight_eq_div_pow]
  change b.toNat / signBit % 2 = _
  rw [signBit]
  omega

def signOf (negative : Bool) : Sign := if negative then .negative else .positive

/-- What arithmetic works on. -/
def Parts.unpacked : Parts → UnpackedFloat
  | .nan => .notANumber
  | .infinite negative => .infinity (signOf negative)
  | .finite negative m e =>
    if h : 0 < m then .finite (signOf negative) m e h else .zero (signOf negative)

theorem ofBitVec_unpackSign (x : Float) :
    Sign.ofBitVec (@unpackSign .binary64 x.toModel.toBits.toBitVec) =
      signOf (signBit ≤ x.toBits.toNat) := by
  have size := x.toBits.toNat_lt
  have bit : _ = x.toBits.toNat / signBit := toNat_unpackSign x.toModel.toBits.toBitVec
  have clear : @unpackSign .binary64 x.toModel.toBits.toBitVec = 0#1 ↔ ¬signBit ≤ x.toBits.toNat := by
    rw [← BitVec.toNat_inj, bit, signBit]
    change _ = 0 ↔ _
    omega
  unfold Sign.ofBitVec signOf
  simp only [clear, decide_eq_true_eq]
  split <;> simp_all

theorem unpack_eq_parts (x : Float) : x.toModel.unpack = (parts x).unpacked := by
  have exponent := toNat_unpackExponent x
  have mantissa : _ = x.toBits.toNat % unitBit := toNat_unpackMantissa x.toModel.toBits.toBitVec
  have full : @unpackExponent .binary64 x.toModel.toBits.toBitVec =
      -1#(Format.binary64.exponentBits) ↔ x.toBits.toNat / unitBit % 2048 = 2047 := by
    rw [← exponent, ← BitVec.toNat_inj]
    rfl
  have least : @unpackExponent .binary64 x.toModel.toBits.toBitVec =
      0#(Format.binary64.exponentBits) ↔ x.toBits.toNat / unitBit % 2048 = 0 := by
    rw [← exponent, ← BitVec.toNat_inj]
    rfl
  have none : @unpackMantissa .binary64 x.toModel.toBits.toBitVec =
      0#(Format.binary64.mantissaBitsWithoutImplicit) ↔ x.toBits.toNat % unitBit = 0 := by
    rw [← mantissa, ← BitVec.toNat_inj]
    rfl
  unfold Float.Model.unpack UnpackedFloat.unpack parts
  simp only [ofBitVec_unpackSign, full, least, none]
  split
  next => split <;> rfl
  next =>
    split
    next zero =>
      unfold Parts.unpacked
      simp only
      split
      next nothing => rw [dif_neg (by omega)]
      next something =>
        rw [dif_pos (by omega)]
        congr 1
        rw [exponent, zero]
        rfl
    next =>
      unfold Parts.unpacked
      simp only
      rw [dif_pos (by rw [unitBit]; omega)]
      congr 1
      · have bound : (@unpackMantissa .binary64 x.toModel.toBits.toBitVec).toNat < 2 ^ 52 :=
          BitVec.isLt _
        rw [BitVec.toNat_append, ← Nat.shiftLeft_add_eq_or_of_lt bound, mantissa]
        rfl
      · rw [exponent]
        rfl

/-! What the parts tell. -/

theorem isNaN_eq_false_iff {x : Float} : x.isNaN = false ↔ parts x ≠ .nan := by
  have unpacked : x.isNaN = x.toModel.unpack.isNaN := rfl
  rw [unpacked, unpack_eq_parts]
  cases parts x with
  | nan | infinite => simp [Parts.unpacked, UnpackedFloat.isNaN]
  | finite negative m e =>
    unfold Parts.unpacked
    simp only
    split <;> simp [UnpackedFloat.isNaN]

theorem isInf_eq_false_of_isFinite {x : Float} (h : x.isFinite = true) : x.isInf = false := by
  unfold Float.isFinite Float.Model.isFinite at h
  unfold Float.isInf Float.Model.isInf
  cases unpacked : x.toModel.unpack with
  | infinity sign =>
    rw [unpacked] at h
    cases h
  | _ => rfl

theorem isNaN_eq_false_of_isFinite {x : Float} (h : x.isFinite = true) : x.isNaN = false := by
  unfold Float.isFinite Float.Model.isFinite at h
  unfold Float.isNaN Float.Model.isNaN
  cases unpacked : x.toModel.unpack with
  | notANumber =>
    rw [unpacked] at h
    cases h
  | _ => rfl

theorem exists_parts_of_isFinite {x : Float} (h : x.isFinite = true) :
    ∃ negative m e, parts x = .finite negative m e := by
  have finite : x.toModel.unpack.isFinite = true := h
  rw [unpack_eq_parts] at finite
  cases eq : parts x with
  | finite negative m e => exact ⟨negative, m, e, rfl⟩
  | nan | infinite negative =>
    rw [eq] at finite
    cases finite

theorem isFinite_eq_true_of_parts {x : Float} {negative : Bool} {m : ℕ} {e : ℤ}
    (h : parts x = .finite negative m e) : x.isFinite = true := by
  change x.toModel.unpack.isFinite = true
  rw [unpack_eq_parts, h, Parts.unpacked]
  split <;> rfl

theorem negative_of_infinite {x : Float} {negative : Bool} (h : parts x = .infinite negative) :
    negative = decide (signBit ≤ x.toBits.toNat) := by
  unfold parts at h
  simp only at h
  split at h
  · split at h <;> cases h
    rfl
  · split at h <;> cases h

theorem negative_of_parts {x : Float} {negative : Bool} {m : ℕ} {e : ℤ}
    (h : parts x = .finite negative m e) : negative = decide (signBit ≤ x.toBits.toNat) := by
  unfold parts at h
  simp only at h
  split at h
  · split at h <;> cases h
  · split at h <;> cases h <;> rfl

/-! Words of finite floats. -/

theorem ofMagnitude_toBits (x : Float) {negative : Bool} {word : ℕ}
    (h : x.toBits.toNat = if negative then signBit + word else word) : ofMagnitude negative word = x := by
  rw [ofMagnitude, ← h, UInt64.ofNat_toNat, Float.ofBits_toBits]

/-- A word is made up of its sign, its scale and its fraction. -/
theorem toBits_eq (x : Float) :
    x.toBits.toNat =
      if signBit ≤ x.toBits.toNat then
        signBit + (x.toBits.toNat / unitBit % 2048 * unitBit + x.toBits.toNat % unitBit)
      else x.toBits.toNat / unitBit % 2048 * unitBit + x.toBits.toNat % unitBit := by
  have size := x.toBits.toNat_lt
  rw [unitBit, signBit]
  split <;> omega

section

variable {x : Float} {negative : Bool} {m : ℕ} {e : ℤ} (h : parts x = .finite negative m e)

include h

theorem isFinite_of_parts : IsFinite m e := by
  unfold parts at h
  simp only at h
  split at h
  · split at h <;> cases h
  · split at h
    · cases h
      constructor
      · rw [unitBit]
        omega
      · decide
      · decide
      · exact .inr rfl
    · cases h
      constructor
      · rw [unitBit]
        omega
      · omega
      · omega
      · exact .inl (Nat.le_add_right _ _)

theorem ofMagnitude_of_parts : ofMagnitude negative ((e + 1074).toNat * unitBit + m) = x := by
  apply ofMagnitude_toBits
  rw [toBits_eq x]
  unfold parts at h
  simp only at h
  split at h
  · split at h <;> cases h
  · split at h
    next zero =>
      cases h
      simp only [zero, decide_eq_true_eq]
      rfl
    next nonzero =>
      cases h
      obtain ⟨k, scale⟩ := Nat.exists_eq_succ_of_ne_zero nonzero
      have place : ((k + 1 : ℕ) - 1075 + 1074 : ℤ).toNat = k := by omega
      simp only [scale, place, Nat.succ_mul, Nat.add_assoc, decide_eq_true_eq]

/-- Whatever rounds to a float names it. -/
theorem nearest_eq {num den : ℕ} (den_pos : 0 < den) (pos : 0 < m)
    (rounds : Rounds (num / den) m e) : nearest negative num den = x := by
  rw [nearest, magnitude_eq den_pos (isFinite_of_parts h) pos rounds, ofMagnitude_of_parts h]

theorem nearest_zero (zero : m = 0) : nearest negative 0 1 = x := by
  have least : e = -1074 := by
    refine (isFinite_of_parts h).normal.resolve_left ?_
    rw [zero, unitBit]
    decide
  have word := ofMagnitude_of_parts h
  rw [zero, least] at word
  exact word

end

end Outlay.Binary64
