import Outlay.Amount
import Outlay.Proofs.Binary64.Rank

/-!
# The order of amounts

The rank of an amount stands for a total order: numbers by their size, the negative zero before the other
one, and what is no number at the end that its sign says.
-/

namespace Outlay.Amount

/-- Which of two amounts comes first. -/
inductive Precedes : Amount → Amount → Prop where
  | less {a b : Amount} (h : a.value < b.value) : Precedes a b
  | zeros : Precedes (ofFloat (-0.0)) (ofFloat 0.0)
  | first {a b : Amount} (ha : a.negative = true) (hb : b.negative = false) : Precedes a b
  | last {a b : Amount} (ha : a.value.isNaN = false) (hb : b.value.isNaN = true)
      (plus : b.negative = false) : Precedes a b

variable {a b : Amount}

theorem rank_of_negative (h : a.negative = true) : a.rank = -2 * Binary64.signBit := by
  rw [rank, if_pos h]

theorem rank_of_not_negative (h : a.negative = false) : a.rank = Binary64.rank a.value := by
  simp only [rank, h, Bool.false_eq_true, if_false]

theorem Precedes.rank_lt (h : a.Precedes b) : a.rank < b.rank := by
  cases h with
  | less h =>
    have ⟨ha, hb⟩ := Binary64.isNaN_eq_false_of_lt h
    rw [rank_of_not_negative (negative_eq_false ha), rank_of_not_negative (negative_eq_false hb)]
    exact Binary64.rank_lt_of_lt h
  | zeros =>
    rw [rank_of_not_negative rfl, rank_of_not_negative rfl]
    exact Binary64.rank_negZero
  | first ha hb =>
    have bound := Binary64.neg_signBit_le_rank b.value
    rw [rank_of_negative ha, rank_of_not_negative hb]
    rw [Binary64.signBit] at *
    omega
  | last ha hb plus =>
    rw [rank_of_not_negative (negative_eq_false ha), rank_of_not_negative plus]
    exact Binary64.rank_lt_of_isNaN ha hb

/-- The sign is all that is known of what is no number. -/
theorem eq_of_isNaN (ha : a.value.isNaN = true) (hb : b.value.isNaN = true)
    (signs : a.negative = b.negative) : a = b := by
  have values : a.value = b.value := (Binary64.eq_nan_of_isNaN ha).trans (Binary64.eq_nan_of_isNaN hb).symm
  obtain ⟨value, negative, isNaN⟩ := a
  obtain ⟨value', negative', isNaN'⟩ := b
  obtain rfl : value = value' := values
  obtain rfl : negative = negative' := signs
  rfl

/-- Any two amounts are in order. -/
theorem precedes_or_precedes (apart : a ≠ b) : a.Precedes b ∨ b.Precedes a := by
  cases ha : a.negative with
  | true =>
    cases hb : b.negative with
    | true =>
      exact absurd (eq_of_isNaN (a.isNaN_of_negative ha) (b.isNaN_of_negative hb) (ha.trans hb.symm)) apart
    | false => exact .inl (.first ha hb)
  | false =>
    cases hb : b.negative with
    | true => exact .inr (.first hb ha)
    | false =>
      cases na : a.value.isNaN with
      | true =>
        cases nb : b.value.isNaN with
        | true => exact absurd (eq_of_isNaN na nb (ha.trans hb.symm)) apart
        | false => exact .inr (.last nb na ha)
      | false =>
        cases nb : b.value.isNaN with
        | true => exact .inl (.last na nb hb)
        | false =>
          rw [eq_ofFloat na, eq_ofFloat nb] at apart ⊢
          rcases Binary64.lt_or_lt_or_eq_or_zeros na nb with
            less | greater | same | ⟨zero, zero'⟩ | ⟨zero, zero'⟩
          · exact .inl (.less less)
          · exact .inr (.less greater)
          · exact absurd (congrArg ofFloat same) apart
          · rw [zero, zero']
            exact .inl .zeros
          · rw [zero, zero']
            exact .inr .zeros

/-- The rank is in the order of amounts. -/
theorem rank_lt_rank_iff : a.rank < b.rank ↔ a.Precedes b := by
  refine ⟨fun less => ?_, Precedes.rank_lt⟩
  have apart : a ≠ b := by
    rintro rfl
    exact lt_irrefl _ less
  exact (precedes_or_precedes apart).resolve_right fun behind => lt_asymm less behind.rank_lt

/-- No two amounts share a rank. -/
theorem rank_eq_rank_iff : a.rank = b.rank ↔ a = b := by
  refine ⟨fun same => ?_, congrArg rank⟩
  by_contra apart
  rcases precedes_or_precedes apart with before | behind
  · exact before.rank_lt.ne same
  · exact behind.rank_lt.ne' same

end Outlay.Amount
