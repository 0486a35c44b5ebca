import Mathlib
import Outlay.Binary64

/-!
# Adding floats

Zeros are neutral up to their sign, and a sum of floats that are not below zero is not below zero:
in particular it is a number.
-/

namespace Outlay.Binary64

open Float.Model UnpackedFloat

theorem pack_unpack_toModel (x : Float) : (⟨.pack x.toModel.unpack⟩ : Float) = x := by
  have bits : UnpackedFloat.pack .binary64 (UnpackedFloat.unpack .binary64 x.toModel.toBits.toBitVec) =
      x.toModel.toBits.toBitVec := pack_unpack_of_valid x.toModel.valid
  apply Float.toBits_inj.1
  exact UInt64.toBitVec_inj.1 bits

theorem eq_of_unpack_eq {x y : Float} (h : x.toModel.unpack = y.toModel.unpack) : x = y := by
  rw [← pack_unpack_toModel x, h, pack_unpack_toModel]

theorem unpack_zero : (0.0 : Float).toModel.unpack = .zero .positive := by
  have word : (0.0 : Float).toModel.toBits = 0 := by decide +kernel
  unfold Float.Model.unpack
  rw [word]
  rfl

theorem unpack_negZero : (-0.0 : Float).toModel.unpack = .zero .negative := by
  have word : (-0.0 : Float).toModel.toBits = 0x8000000000000000 := by decide +kernel
  unfold Float.Model.unpack
  rw [word]
  rfl

theorem add_eq_of_unpack {x y z : Float}
    (h : UnpackedFloat.add .binary64 x.toModel.unpack y.toModel.unpack = z.toModel.unpack) :
    x + y = z := by
  rw [← pack_unpack_toModel z, ← h]
  rfl

theorem negZero_add (x : Float) : -0.0 + x = x := by
  apply add_eq_of_unpack
  rw [unpack_negZero]
  cases x.toModel.unpack with
  | zero sign => cases sign <;> rfl
  | _ => rfl

theorem zero_add_of_ne_negZero {x : Float} (h : x ≠ -0.0) : 0.0 + x = x := by
  have notZero : x.toModel.unpack ≠ .zero .negative := by
    intro same
    exact h (eq_of_unpack_eq (same.trans unpack_negZero.symm))
  apply add_eq_of_unpack
  rw [unpack_zero]
  cases unpacked : x.toModel.unpack with
  | zero sign =>
    cases sign with
    | positive => rfl
    | negative => exact absurd unpacked notZero
  | _ => rfl

theorem zero_add_negZero : (0.0 : Float) + -0.0 = 0.0 := by decide +kernel

/-- A zero of either sign, or something with the sign. -/
def HasSign (s : Sign) : UnpackedFloat → Prop
  | .zero _ => True
  | .infinity sign => sign = s
  | .finite sign .. => sign = s
  | .notANumber => False

/-- A zero of either sign, or positive. -/
def IsUnsigned : UnpackedFloat → Prop
  | .zero _ => True
  | .infinity sign => sign = .positive
  | .finite sign .. => sign = .positive
  | .notANumber => False

theorem hasSign_positive_iff {u : UnpackedFloat} : HasSign .positive u ↔ IsUnsigned u := by
  cases u <;> rfl

theorem zero_le_iff {x : Float} : 0.0 ≤ x ↔ IsUnsigned x.toModel.unpack := by
  have le : 0.0 ≤ x ↔ UnpackedFloat.le (.zero .positive) x.toModel.unpack = true := by
    rw [← unpack_zero]
    exact Iff.of_eq (decide_eq_true_eq)
  rw [le]
  cases x.toModel.unpack with
  | zero sign => simp [IsUnsigned, UnpackedFloat.le, UnpackedFloat.compare, Ordering.isLE]
  | notANumber => simp [IsUnsigned, UnpackedFloat.le, UnpackedFloat.compare]
  | infinity sign =>
    cases sign <;> simp [IsUnsigned, UnpackedFloat.le, UnpackedFloat.compare, Ordering.isLE]
  | finite sign m e h =>
    cases sign <;> simp [IsUnsigned, UnpackedFloat.le, UnpackedFloat.compare, Ordering.isLE]

theorem hasSign_unpack_packComponents {s : Sign} {e : BitVec 11} {m : BitVec 52}
    (h : e ≠ -1#11 ∨ m = 0#52) :
    HasSign s (UnpackedFloat.unpack .binary64 (packComponents .binary64 s e m)) := by
  unfold UnpackedFloat.unpack
  simp only [unpackMantissa_packComponents, unpackExponent_packComponents,
    unpackSign_packComponents, Sign.ofBitVec_toBitVec]
  split
  next top =>
    rcases h with h | h
    · exact absurd top h
    · rw [if_pos h]
      rfl
  next =>
    split
    next =>
      split
      · trivial
      · rfl
    next => rfl

theorem hasSign_unpack_pack {s : Sign} {u : UnpackedFloat} (h : HasSign s u) :
    HasSign s (UnpackedFloat.unpack .binary64 (UnpackedFloat.pack .binary64 u)) := by
  cases u with
  | notANumber => exact h
  | zero sign =>
    change HasSign s (UnpackedFloat.unpack .binary64 (packedZero .binary64 sign))
    rw [unpack_packedZero]
    trivial
  | infinity sign =>
    obtain rfl : sign = s := h
    exact hasSign_unpack_packComponents (.inr rfl)
  | finite sign m e positive =>
    obtain rfl : sign = s := h
    unfold UnpackedFloat.pack
    simp only
    split
    next => exact hasSign_unpack_packComponents (.inr rfl)
    next small =>
      split
      next =>
        refine hasSign_unpack_packComponents (.inl ?_)
        intro top
        have biased := congrArg BitVec.toNat top
        simp only [BitVec.toNat_ofNat, BitVec.reduceNeg] at biased
        rw [Nat.mod_eq_of_lt (by omega)] at biased
        omega
      next => exact hasSign_unpack_packComponents (.inl (by decide))

theorem isUnsigned_unpack_pack {u : UnpackedFloat} (h : IsUnsigned u) :
    IsUnsigned (UnpackedFloat.unpack .binary64 (UnpackedFloat.pack .binary64 u)) :=
  hasSign_positive_iff.1 (hasSign_unpack_pack (hasSign_positive_iff.2 h))

theorem hasSign_roundWithAccuracy (s : Sign) (m : Nat) (e : Int) (accuracy : Accuracy) :
    HasSign s (roundWithAccuracy .binary64 s m e accuracy) := by
  unfold roundWithAccuracy
  simp only
  split
  · trivial
  · rfl

theorem isUnsigned_normalize {m : Int} (h : 0 ≤ m) (e : Int) :
    IsUnsigned (UnpackedFloat.normalize .binary64 m e .positive) := by
  unfold UnpackedFloat.normalize
  split
  next below => exact absurd (Int.compare_eq_lt.1 below) (by omega)
  next => trivial
  next => exact hasSign_positive_iff.1 (hasSign_roundWithAccuracy _ _ _ _)

theorem isUnsigned_add {u v : UnpackedFloat} (hu : IsUnsigned u) (hv : IsUnsigned v) :
    IsUnsigned (UnpackedFloat.add .binary64 u v) := by
  cases u with
  | notANumber => exact hu
  | zero sign =>
    cases v with
    | zero sign' =>
      cases sign <;> cases sign' <;> trivial
    | _ => exact hv
  | infinity sign =>
    obtain rfl : sign = .positive := hu
    cases v with
    | notANumber => exact hv
    | infinity sign' =>
      obtain rfl : sign' = .positive := hv
      rfl
    | _ => rfl
  | finite sign m e positive =>
    obtain rfl : sign = .positive := hu
    cases v with
    | finite sign' m' e' positive' =>
      obtain rfl : sign' = .positive := hv
      refine isUnsigned_normalize ?_ _
      exact Int.add_nonneg (Int.natCast_nonneg _) (Int.natCast_nonneg _)
    | zero sign' => rfl
    | _ => exact hv

theorem zero_le_add {x y : Float} (hx : 0.0 ≤ x) (hy : 0.0 ≤ y) : 0.0 ≤ x + y :=
  zero_le_iff.2 (isUnsigned_unpack_pack (isUnsigned_add (zero_le_iff.1 hx) (zero_le_iff.1 hy)))

theorem beq_self_of_zero_le {x : Float} (h : 0.0 ≤ x) : (x == x) = true := by
  rw [Float.beq_self_iff]
  rintro rfl
  exact absurd h (by decide +kernel)

theorem zero_le_foldl_add {xs : List Float} (h : ∀ x ∈ xs, 0.0 ≤ x) {sum : Float} (start : 0.0 ≤ sum) :
    0.0 ≤ xs.foldl (· + ·) sum := by
  induction xs generalizing sum with
  | nil => exact start
  | cons x xs ih =>
    rw [List.forall_mem_cons] at h
    exact ih h.2 (zero_le_add start h.1)

theorem foldl_add_negZero_cons (x : Float) (xs : List Float) :
    (x :: xs).foldl (· + ·) (-0.0) = xs.foldl (· + ·) x := by
  rw [List.foldl_cons, negZero_add]

/-- Sums that start from the two zeros part only if all summands are `-0.0`. -/
theorem foldl_add_zero_cases (xs : List Float) :
    xs.foldl (· + ·) 0.0 = xs.foldl (· + ·) (-0.0) ∨
      (xs.foldl (· + ·) 0.0 = 0.0 ∧ xs.foldl (· + ·) (-0.0) = -0.0) := by
  induction xs with
  | nil => exact .inr ⟨rfl, rfl⟩
  | cons x xs ih =>
    rw [List.foldl_cons, foldl_add_negZero_cons]
    by_cases negative : x = -0.0
    · rw [negative, zero_add_negZero]
      exact ih
    · rw [zero_add_of_ne_negZero negative]
      exact .inl rfl

theorem foldl_add_zero_beq {xs : List Float} (h : ∀ x ∈ xs, 0.0 ≤ x) :
    (xs.foldl (· + ·) 0.0 == xs.foldl (· + ·) (-0.0)) = true := by
  rcases foldl_add_zero_cases xs with same | ⟨zero, negZero⟩
  · rw [← same]
    exact beq_self_of_zero_le (zero_le_foldl_add h (by decide +kernel))
  · rw [zero, negZero]
    decide +kernel

end Outlay.Binary64
