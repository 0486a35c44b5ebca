import Outlay.Proofs.Binary64.Range

/-!
# The numbers that floats stand for

Floats that are numbers are ordered as the numbers they stand for, with an infinity at either end. So
they are in a total order but for the two zeros, which stand for the same number.
-/

namespace Outlay.Binary64

open Float.Model UnpackedFloat

/-- The number that a finite float stands for. -/
def Parts.value : Parts → ℚ
  | .finite negative m e => if negative then -(m * 2 ^ e) else m * 2 ^ e
  | _ => 0

/-- The same with the two infinities. -/
def Parts.number : Parts → WithBot (WithTop ℚ)
  | .infinite true => ⊥
  | .infinite false => ((⊤ : WithTop ℚ) : WithBot (WithTop ℚ))
  | p => ((p.value : WithTop ℚ) : WithBot (WithTop ℚ))

section

variable {m n : ℕ} {e f : ℤ} (x : IsFinite m e)

include x

theorem mul_two_zpow_lt_unitBit_mul (less : e < f) : (m * 2 ^ e : ℚ) < unitBit * 2 ^ f := by
  have small : (m : ℚ) < 2 * unitBit := by exact_mod_cast x.lt
  calc (m * 2 ^ e : ℚ) < 2 * unitBit * 2 ^ e := mul_lt_mul_of_pos_right small (two_zpow_pos e)
    _ = unitBit * 2 ^ (e + 1) := by
      rw [zpow_add_one₀ two_ne_zero]
      ring
    _ ≤ unitBit * 2 ^ f :=
      mul_le_mul_of_nonneg_left (zpow_le_zpow_right₀ (by norm_num) less) (Nat.cast_nonneg _)

variable (y : IsFinite n f)

include y

/-- A larger exponent outweighs every mantissa. -/
theorem mul_two_zpow_lt (less : e < f) : (m * 2 ^ e : ℚ) < n * 2 ^ f := by
  have normal : unitBit ≤ n := y.normal.resolve_right (x.least.trans_lt less).ne'
  refine (mul_two_zpow_lt_unitBit_mul x less).trans_le ?_
  exact mul_le_mul_of_nonneg_right (Nat.cast_le.2 normal) (two_zpow_pos f).le

theorem then_compare_eq_cmp :
    (Ord.compare e f).then (Ord.compare m n) = cmp (m * 2 ^ e : ℚ) (n * 2 ^ f) := by
  rcases lt_trichotomy e f with less | rfl | greater
  · rw [Int.compare_eq_lt.2 less, (mul_two_zpow_lt x y less).cmp_eq_lt]
    rfl
  · have scale : StrictMono fun k : ℕ => (k * 2 ^ e : ℚ) := fun a b h =>
      mul_lt_mul_of_pos_right (Nat.cast_lt.2 h) (two_zpow_pos e)
    rw [Int.compare_eq_eq.2 rfl, scale.cmp_map_eq m n, cmp_eq_compare]
    rfl
  · rw [Int.compare_eq_gt.2 greater, (mul_two_zpow_lt y x greater).cmp_eq_gt]
    rfl

theorem compare_finite (s t : Bool) :
    (Parts.finite s m e).unpacked.compare (Parts.finite t n f).unpacked =
      some (cmp (Parts.finite s m e).value (Parts.finite t n f).value) := by
  have size {k : ℕ} (pos : 0 < k) (g : ℤ) : (0 : ℚ) < k * 2 ^ g :=
    mul_pos (Nat.cast_pos.2 pos) (two_zpow_pos g)
  rcases Nat.eq_zero_or_pos m with rfl | hm
  · rcases Nat.eq_zero_or_pos n with rfl | hn
    · simp [Parts.unpacked, Parts.value, UnpackedFloat.compare]
    · have pos := size hn f
      simp only [Parts.unpacked, dif_pos hn, Parts.value]
      cases t with
      | true => simp [signOf, UnpackedFloat.compare, (neg_lt_zero.2 pos).cmp_eq_gt]
      | false => simp [signOf, UnpackedFloat.compare, pos.cmp_eq_lt]
  · have mPos := size hm e
    rcases Nat.eq_zero_or_pos n with rfl | hn
    · simp only [Parts.unpacked, dif_pos hm, Parts.value]
      cases s with
      | true => simp [signOf, UnpackedFloat.compare, (neg_lt_zero.2 mPos).cmp_eq_lt]
      | false => simp [signOf, UnpackedFloat.compare, mPos.cmp_eq_gt]
    · have nPos := size hn f
      have sizes := then_compare_eq_cmp x y
      simp only [Parts.unpacked, dif_pos hm, dif_pos hn, Parts.value]
      cases s with
      | false =>
        cases t with
        | false => exact congrArg some sizes
        | true =>
          have order : -(n * 2 ^ f : ℚ) < m * 2 ^ e := by linarith
          exact congrArg some order.cmp_eq_gt.symm
      | true =>
        cases t with
        | false =>
          have order : -(m * 2 ^ e : ℚ) < n * 2 ^ f := by linarith
          exact congrArg some order.cmp_eq_lt.symm
        | true =>
          have turned : StrictAnti fun a : ℚ => -a := fun _ _ h => neg_lt_neg h
          refine congrArg some ?_
          change ((Ord.compare e f).then (Ord.compare m n)).swap = cmp (-(m * 2 ^ e : ℚ)) (-(n * 2 ^ f))
          rw [sizes, cmp_swap, turned.cmp_map_eq]

end

section

variable {x y : Float} (hx : x.isNaN = false) (hy : y.isNaN = false)

include hx hy

theorem compare_eq_cmp :
    x.toModel.unpack.compare y.toModel.unpack = some (cmp (parts x).number (parts y).number) := by
  rw [isNaN_eq_false_iff] at hx hy
  rw [unpack_eq_parts, unpack_eq_parts]
  have exact : StrictMono fun a : ℚ => ((a : WithTop ℚ) : WithBot (WithTop ℚ)) :=
    WithBot.coe_strictMono.comp WithTop.coe_strictMono
  cases px : parts x with
  | nan => exact absurd px hx
  | infinite s =>
    cases py : parts y with
    | nan => exact absurd py hy
    | infinite t => cases s <;> cases t <;> rfl
    | finite t n f =>
      unfold Parts.unpacked
      simp only
      cases s <;> cases t <;> split <;> rfl
  | finite s m e =>
    cases py : parts y with
    | nan => exact absurd py hy
    | infinite t =>
      unfold Parts.unpacked
      simp only
      cases s <;> cases t <;> split <;> rfl
    | finite t n f =>
      rw [compare_finite (isFinite_of_parts px) (isFinite_of_parts py)]
      exact congrArg some (exact.cmp_map_eq _ _).symm

theorem lt_iff_number_lt : x < y ↔ (parts x).number < (parts y).number := by
  rw [lt_iff_compare, compare_eq_cmp hx hy, Option.some_inj, cmp_eq_lt_iff]

theorem le_iff_number_le : x ≤ y ↔ (parts x).number ≤ (parts y).number := by
  rw [← not_lt_iff_le hy hx, lt_iff_number_lt hy hx, not_lt]

theorem beq_iff_number_eq : (x == y) = true ↔ (parts x).number = (parts y).number := by
  have beq : (x == y) = (x.toModel.unpack.compare y.toModel.unpack == some .eq) := rfl
  rw [beq, compare_eq_cmp hx hy, beq_iff_eq, Option.some_inj, cmp_eq_eq_iff]

end

/-- What is no number is in no relation. -/
theorem isNaN_eq_false_of_le {x y : Float} (h : x ≤ y) : x.isNaN = false ∧ y.isNaN = false := by
  obtain ⟨o, order, -⟩ := le_iff_compare.1 h
  have unpacked (z : Float) : z.isNaN = z.toModel.unpack.isNaN := rfl
  rw [unpacked, unpacked]
  cases hu : x.toModel.unpack with
  | notANumber =>
    rw [hu] at order
    cases order
  | zero | infinity | finite =>
    cases hv : y.toModel.unpack with
    | notANumber =>
      rw [hu, hv] at order
      cases order
    | zero | infinity | finite => exact ⟨rfl, rfl⟩

end Outlay.Binary64
