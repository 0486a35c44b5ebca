import Outlay.Binary64

/-!
# The order of floats

Numbers, infinities among them, are in a total order; only what is no number is in no relation to
others. So "not less" says "at least" of numbers alone.
-/

namespace Outlay.Binary64

open Float.Model

theorem compare_swap (u v : UnpackedFloat) :
    v.compare u = (u.compare v).map Ordering.swap := by
  cases u with
  | notANumber => cases v <;> rfl
  | zero s =>
    cases v with
    | notANumber | zero t => rfl
    | infinity t | finite t => cases t <;> rfl
  | infinity s =>
    cases v with
    | notANumber | zero t => cases s <;> rfl
    | infinity t | finite t => cases s <;> cases t <;> rfl
  | finite s m e h =>
    cases v with
    | notANumber | zero t => cases s <;> rfl
    | infinity t => cases s <;> cases t <;> rfl
    | finite t n f h' =>
      have exponents : Ord.compare f e = (Ord.compare e f).swap := Std.OrientedCmp.eq_swap
      have mantissas : Ord.compare n m = (Ord.compare m n).swap := Std.OrientedCmp.eq_swap
      have sizes : (Ord.compare f e).then (Ord.compare n m) =
          ((Ord.compare e f).then (Ord.compare m n)).swap := by
        rw [Ordering.swap_then, exponents, mantissas]
      cases s with
      | positive =>
        cases t with
        | positive => exact congrArg some sizes
        | negative => rfl
      | negative =>
        cases t with
        | positive => rfl
        | negative => exact congrArg (fun o => some o.swap) sizes

theorem exists_compare_eq {u v : UnpackedFloat} (hu : u.isNaN = false) (hv : v.isNaN = false) :
    ∃ o, u.compare v = some o := by
  cases u with
  | notANumber => cases hu
  | zero s =>
    cases v with
    | notANumber => cases hv
    | zero t => exact ⟨_, rfl⟩
    | infinity t | finite t => cases t <;> exact ⟨_, rfl⟩
  | infinity s | finite s =>
    cases v with
    | notANumber => cases hv
    | zero t => cases s <;> exact ⟨_, rfl⟩
    | infinity t | finite t => cases s <;> cases t <;> exact ⟨_, rfl⟩

theorem lt_iff_compare {x y : Float} :
    x < y ↔ x.toModel.unpack.compare y.toModel.unpack = some .lt := by
  have lt : x < y ↔ x.toModel.unpack.lt y.toModel.unpack = true := Iff.of_eq decide_eq_true_eq
  rw [lt, UnpackedFloat.lt, beq_iff_eq]

theorem le_iff_compare {x y : Float} :
    x ≤ y ↔ ∃ o, x.toModel.unpack.compare y.toModel.unpack = some o ∧ o.isLE = true := by
  have le : x ≤ y ↔ x.toModel.unpack.le y.toModel.unpack = true := Iff.of_eq decide_eq_true_eq
  rw [le, UnpackedFloat.le, Option.any_eq_true]

/-- Of two numbers the one that is not less is at least the other. -/
theorem not_lt_iff_le {x y : Float} (hx : x.isNaN = false) (hy : y.isNaN = false) :
    ¬x < y ↔ y ≤ x := by
  obtain ⟨o, order⟩ := exists_compare_eq (u := x.toModel.unpack) (v := y.toModel.unpack) hx hy
  have turned := compare_swap x.toModel.unpack y.toModel.unpack
  rw [lt_iff_compare, le_iff_compare, turned, order]
  cases o with
  | lt | eq | gt => simp

theorem not_lt_of_isNaN {x y : Float} (h : y.isNaN = true) : ¬x < y := by
  have notNumber : y.toModel.unpack.isNaN = true := h
  rw [lt_iff_compare]
  cases unpacked : y.toModel.unpack with
  | notANumber => cases x.toModel.unpack <;> rintro ⟨⟩
  | zero s | infinity s | finite s =>
    rw [unpacked] at notNumber
    cases notNumber

end Outlay.Binary64
