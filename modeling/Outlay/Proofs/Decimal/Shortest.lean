import Outlay.Decimal.Shortest
import Outlay.Proofs.Binary64.Parts

/-!
# Shortest digits are read back

Whatever grid the search stops at, the point that it takes rounds to the float.
-/

namespace Outlay.Decimal

open Binary64

variable {m : ℕ} {e : ℤ}

/-! Grids. -/

/-- The unit that the numbers of a grid are multiples of, taken the other way round. -/
def gridUnit (e place : ℤ) : ℕ := Nat.pow 2 (2 - e).toNat * Nat.pow 10 (-place).toNat

theorem gridUnit_pos (e place : ℤ) : (0 : ℚ) < gridUnit e place :=
  Nat.cast_pos.2 (Nat.mul_pos (Nat.pow_pos (by decide)) (Nat.pow_pos (by decide)))

theorem gridScale_eq (e place : ℤ) :
    ((Nat.pow 2 (e - 2).toNat * Nat.pow 10 (-place).toNat : ℕ) : ℚ) =
      2 ^ (e - 2) * gridUnit e place := by
  have power := pow_toNat_eq (b := 2) (by decide) (e - 2)
  rw [neg_sub, Nat.cast_ofNat] at power
  rw [gridUnit, Nat.cast_mul, Nat.cast_mul, power, mul_assoc]

theorem gridStep_eq (m : ℕ) (e place : ℤ) :
    ((Grid.of m e place).step : ℚ) = 10 ^ place * gridUnit e place := by
  have power := pow_toNat_eq (b := 10) (by decide) place
  rw [Nat.cast_ofNat] at power
  rw [Grid.of, gridUnit, Nat.cast_mul, Nat.cast_mul, power]
  ring

theorem gridHigh_eq (m : ℕ) (e place : ℤ) :
    ((Grid.of m e place).high : ℚ) = (4 * m + 2) * 2 ^ (e - 2) * gridUnit e place := by
  rw [Grid.of, Nat.cast_mul, gridScale_eq]
  push_cast
  ring

theorem gridLow_eq (pos : 0 < m) (place : ℤ) :
    ((Grid.of m e place).low : ℚ) =
      (4 * m - quartersBelow m e) * 2 ^ (e - 2) * gridUnit e place := by
  have least := quartersBelow_le m e
  have low : (Grid.of m e place).low = (4 * m - quartersBelow m e) *
      (Nat.pow 2 (e - 2).toNat * Nat.pow 10 (-place).toNat) := rfl
  rw [low, Nat.cast_mul, gridScale_eq, Nat.cast_sub (by omega)]
  push_cast
  ring

theorem rounds_of_contains (pos : 0 < m) {place : ℤ} {n : ℕ}
    (inside : (Grid.of m e place).contains n = true) : Rounds (n * 10 ^ place) m e := by
  have unit_pos := gridUnit_pos e place
  have point : ((n * (Grid.of m e place).step : ℕ) : ℚ) = n * 10 ^ place * gridUnit e place := by
    rw [Nat.cast_mul, gridStep_eq, mul_assoc]
  have closed : (Grid.of m e place).closed = decide (m % 2 = 0) := rfl
  have gap : (4 * m - quartersBelow m e : ℚ) * 2 ^ (e - 2) ≤ (4 * m + 2) * 2 ^ (e - 2) := by
    have : (0 : ℚ) ≤ quartersBelow m e := Nat.cast_nonneg _
    exact mul_le_mul_of_nonneg_right (by linarith) (two_zpow_pos _).le
  unfold Grid.contains at inside
  simp only [Bool.or_eq_true, Bool.and_eq_true, decide_eq_true_eq, beq_iff_eq, closed] at inside
  have toRat (a b : ℕ) : (a < b ↔ (a : ℚ) < b) ∧ (a = b ↔ (a : ℚ) = b) :=
    ⟨Nat.cast_lt.symm, Nat.cast_inj.symm⟩
  rw [(toRat _ _).1, (toRat _ _).1, (toRat _ (Grid.low _)).2, (toRat _ (Grid.high _)).2, point,
    gridLow_eq pos, gridHigh_eq, mul_lt_mul_iff_left₀ unit_pos, mul_lt_mul_iff_left₀ unit_pos,
    mul_left_inj' unit_pos.ne', mul_left_inj' unit_pos.ne'] at inside
  rcases inside with ⟨low, high⟩ | ⟨even, low | high⟩
  · exact ⟨low.le, high.le, fun _ => ⟨low, high⟩⟩
  · refine ⟨low.ge, low.trans_le gap, fun odd => ?_⟩
    omega
  · refine ⟨gap.trans high.ge, high.le, fun odd => ?_⟩
    omega

theorem contains_of_nearest? {g : Grid} {tiesUp : Bool} {n : ℕ}
    (found : g.nearest? tiesUp = some n) : g.contains n = true := by
  unfold Grid.nearest? at found
  simp only at found
  split at found
  next down up =>
    cases found
    split_ifs
    · exact down
    · exact up
    · rcases Nat.mod_two_eq_zero_or_one (g.value / g.step) with even | odd
      · rw [even]
        exact down
      · rw [odd]
        exact up
  next down _ =>
    cases found
    exact down
  next _ up =>
    cases found
    exact up
  next => cases found

/-! The search. -/

theorem rounds_self (m : ℕ) (e : ℤ) : Rounds (m * 2 ^ e) m e := by
  have unit_pos := two_zpow_pos (e - 2)
  have quarters : (1 : ℚ) ≤ quartersBelow m e := by
    unfold quartersBelow
    split <;> norm_num
  rw [two_zpow_eq_four_mul e]
  refine ⟨?_, ?_, fun _ => ⟨?_, ?_⟩⟩ <;> nlinarith

/-- The number itself as a decimal. -/
theorem exact_eq (m : ℕ) (e : ℤ) :
    ((m * Nat.pow 2 e.toNat * Nat.pow 5 (-e).toNat : ℕ) : ℚ) * 10 ^ min e 0 = m * 2 ^ e := by
  rcases le_total 0 e with h | h
  · obtain ⟨n, rfl⟩ := Int.eq_ofNat_of_zero_le h
    simp
  · obtain ⟨n, hn⟩ := Int.eq_ofNat_of_zero_le (Int.neg_nonneg_of_nonpos h)
    obtain rfl : e = -n := by omega
    have ten : (10 : ℚ) ^ (-n : ℤ) = 2 ^ (-n : ℤ) * 5 ^ (-n : ℤ) := by
      rw [← mul_zpow]
      norm_num
    rw [min_eq_left h, ten]
    simp
    field_simp

theorem rounds_search (pos : 0 < m) (tiesUp : Bool) (tries : ℕ) (place : ℤ) :
    Rounds ((search tiesUp m e tries place).1 * 10 ^ (search tiesUp m e tries place).2) m e := by
  induction tries generalizing place with
  | zero =>
    rw [search, exact_eq]
    exact rounds_self m e
  | succ tries ih =>
    rw [search]
    split
    next n found => exact rounds_of_contains pos (contains_of_nearest? found)
    next => exact ih (place - 1)

theorem rounds_shortest (pos : 0 < m) (tiesUp : Bool) :
    Rounds ((shortest tiesUp m e).1 * 10 ^ (shortest tiesUp m e).2) m e := by
  rw [shortest, if_neg pos.ne']
  exact rounds_search pos tiesUp _ _

end Outlay.Decimal
