import Mathlib
import Outlay.Binary64

/-!
# What rounds to a float

The numbers between a float and the middles of its two gaps round to that float, and the middles do
if its mantissa is even.
-/

namespace Outlay.Binary64

/-- The float `m * 2 ^ e`. Only the least exponent has mantissas below the unit bit. -/
structure IsFinite (m : ℕ) (e : ℤ) : Prop where
  lt : m < 2 * unitBit
  least : -1074 ≤ e
  greatest : e ≤ 971
  normal : unitBit ≤ m ∨ e = -1074

/-- Quarters of the last place between a float and the middle of the gap below it. Below a power of
two the gap is half as wide. -/
def quartersBelow (m : ℕ) (e : ℤ) : ℕ := if m = unitBit ∧ -1074 < e then 1 else 2

/-- The interval of the numbers that round to a float. -/
structure Rounds (q : ℚ) (m : ℕ) (e : ℤ) : Prop where
  low : (4 * m - quartersBelow m e) * 2 ^ (e - 2) ≤ q
  high : q ≤ (4 * m + 2) * 2 ^ (e - 2)
  odd : m % 2 = 1 → (4 * m - quartersBelow m e) * 2 ^ (e - 2) < q ∧ q < (4 * m + 2) * 2 ^ (e - 2)

theorem two_zpow_pos (e : ℤ) : (0 : ℚ) < 2 ^ e := zpow_pos (by norm_num) e

/-- Powers of two in terms of a quarter of the last place. -/
theorem two_zpow_eq {a e : ℤ} (n : ℕ) (h : a = n + (e - 2)) : (2 : ℚ) ^ a = 2 ^ n * 2 ^ (e - 2) := by
  rw [h, zpow_add₀ two_ne_zero, zpow_natCast]

theorem two_zpow_eq_four_mul (e : ℤ) : (2 : ℚ) ^ e = 4 * 2 ^ (e - 2) := by
  have unit := two_zpow_eq (a := e) (e := e) 2 (by omega)
  norm_num at unit
  exact unit

theorem quartersBelow_le (m : ℕ) (e : ℤ) : quartersBelow m e ≤ 2 := by
  unfold quartersBelow
  split <;> decide

/-! Rounding quotients. -/

theorem divHalfEven_bounds (num : ℕ) {den : ℕ} (den_pos : 0 < den) :
    2 * (den * divHalfEven num den) ≤ 2 * num + den ∧
      2 * num ≤ 2 * (den * divHalfEven num den) + den ∧
      (divHalfEven num den % 2 = 1 →
        2 * (den * divHalfEven num den) < 2 * num + den ∧
          2 * num < 2 * (den * divHalfEven num den) + den) := by
  have parts := Nat.div_add_mod num den
  have small := Nat.mod_lt num den_pos
  unfold divHalfEven
  generalize num / den = whole at *
  generalize num % den = rest at *
  subst parts
  have next : den * (whole + 1) = den * whole + den := Nat.mul_succ den whole
  simp only
  split
  · omega
  · split
    · omega
    · rcases Nat.mod_two_eq_zero_or_one whole with even | odd
      · rw [even, Nat.add_zero]
        omega
      · rw [odd]
        omega

/-- The distance to the whole number that is taken is at most a half, and less if that is odd. -/
theorem abs_sub_divHalfEven_le (num : ℕ) {den : ℕ} (den_pos : 0 < den) :
    |(num / den : ℚ) - divHalfEven num den| ≤ 1 / 2 ∧
      (divHalfEven num den % 2 = 1 → |(num / den : ℚ) - divHalfEven num den| < 1 / 2) := by
  have den_pos' : (0 : ℚ) < den := Nat.cast_pos.2 den_pos
  obtain ⟨low, high, odd⟩ := divHalfEven_bounds num den_pos
  have quotient : (num / den : ℚ) * den = num := div_mul_cancel₀ _ den_pos'.ne'
  generalize (num / den : ℚ) = q at *
  generalize divHalfEven num den = r at *
  rw [abs_le, abs_lt]
  have toRat : (2 * (den * r) : ℚ) ≤ 2 * num + den ∧ (2 * num : ℚ) ≤ 2 * (den * r) + den :=
    ⟨by exact_mod_cast low, by exact_mod_cast high⟩
  constructor
  · constructor <;> nlinarith
  · intro isOdd
    have toRat : (2 * (den * r) : ℚ) < 2 * num + den ∧ (2 * num : ℚ) < 2 * (den * r) + den :=
      ⟨by exact_mod_cast (odd isOdd).1, by exact_mod_cast (odd isOdd).2⟩
    constructor <;> nlinarith

theorem divHalfEven_eq {num den r : ℕ} (positive : 0 < den) (low : (r : ℚ) - 1 / 2 ≤ num / den)
    (high : (num / den : ℚ) ≤ r + 1 / 2)
    (odd : r % 2 = 1 → (r : ℚ) - 1 / 2 < num / den ∧ (num / den : ℚ) < r + 1 / 2) :
    divHalfEven num den = r := by
  obtain ⟨near, nearer⟩ := abs_sub_divHalfEven_le num positive
  rw [abs_le] at near
  rw [abs_lt] at nearer
  generalize (num / den : ℚ) = q at *
  generalize divHalfEven num den = d at *
  -- Two whole numbers as near are neighbours with the middle between them, and one of them is odd.
  rcases lt_trichotomy d r with less | same | greater
  · have apart : (d : ℚ) + 1 ≤ r := by exact_mod_cast less
    have next : r = d + 1 := by
      refine le_antisymm ?_ less
      have : (r : ℚ) ≤ d + 1 := by linarith
      exact_mod_cast this
    rcases Nat.mod_two_eq_zero_or_one d with even | isOdd
    · linarith [odd (by omega)]
    · linarith [nearer isOdd]
  · exact same
  · have apart : (r : ℚ) + 1 ≤ d := by exact_mod_cast greater
    have next : d = r + 1 := by
      refine le_antisymm ?_ greater
      have : (d : ℚ) ≤ r + 1 := by linarith
      exact_mod_cast this
    rcases Nat.mod_two_eq_zero_or_one r with even | isOdd
    · linarith [nearer (by omega)]
    · linarith [odd isOdd]

theorem divHalfEven_le {num den r : ℕ} (den_pos : 0 < den) (h : (num / den : ℚ) < r + 1 / 2) :
    divHalfEven num den ≤ r := by
  have near := abs_le.1 (abs_sub_divHalfEven_le num den_pos).1
  by_contra beyond
  have next : (r : ℚ) + 1 ≤ divHalfEven num den := by exact_mod_cast not_le.1 beyond
  linarith

/-! The last place of a quotient. -/

/-- A power as a quotient of whole numbers. -/
theorem pow_toNat_div_pow_toNat (b : ℕ) (e : ℤ) :
    (Nat.pow b e.toNat : ℕ) / (Nat.pow b (-e).toNat : ℕ) = (b : ℚ) ^ e := by
  simp only [Nat.pow_eq, Nat.cast_pow]
  rcases le_total 0 e with h | h
  · obtain ⟨n, rfl⟩ := Int.eq_ofNat_of_zero_le h
    simp
  · obtain ⟨n, hn⟩ := Int.eq_ofNat_of_zero_le (Int.neg_nonneg_of_nonpos h)
    obtain rfl : e = -n := by omega
    simp

theorem pow_toNat_eq {b : ℕ} (pos : 0 < b) (e : ℤ) :
    ((Nat.pow b e.toNat : ℕ) : ℚ) = (b : ℚ) ^ e * (Nat.pow b (-e).toNat : ℕ) := by
  have unit_pos : (0 : ℚ) < (Nat.pow b (-e).toNat : ℕ) := Nat.cast_pos.2 (Nat.pow_pos pos)
  rw [← pow_toNat_div_pow_toNat b, div_mul_cancel₀ _ unit_pos.ne']

theorem scaled_div (num den : ℕ) (e : ℤ) :
    ((num * Nat.pow 2 (-e).toNat : ℕ) : ℚ) / (den * Nat.pow 2 e.toNat : ℕ) = num / den / 2 ^ e := by
  have power := pow_toNat_div_pow_toNat 2 e
  rw [Nat.cast_ofNat] at power
  rw [← power, Nat.cast_mul, Nat.cast_mul, div_div_eq_mul_div, div_mul_eq_mul_div, div_div]

theorem two_zpow_lt_iff {a b : ℤ} : (2 : ℚ) ^ a < 2 ^ b ↔ a < b :=
  zpow_lt_zpow_iff_right₀ (by norm_num)

theorem two_zpow_log2_le {n : ℕ} (pos : 0 < n) : (2 : ℚ) ^ (n.log2 : ℤ) ≤ n := by
  rw [zpow_natCast]
  exact_mod_cast Nat.log2_self_le pos.ne'

theorem lt_two_zpow_log2 (n : ℕ) : (n : ℚ) < 2 ^ (n.log2 + 1 : ℤ) := by
  have := Nat.lt_log2_self (n := n)
  exact_mod_cast this

/-- The binary logarithms of the two numbers tell that of the quotient up to one. -/
theorem two_zpow_log2_sub_lt {num den : ℕ} (num_pos : 0 < num) (den_pos : 0 < den) :
    (2 : ℚ) ^ ((num.log2 : ℤ) - den.log2 - 1) < num / den ∧
      (num / den : ℚ) < 2 ^ ((num.log2 : ℤ) - den.log2 + 1) := by
  have den_pos' : (0 : ℚ) < den := Nat.cast_pos.2 den_pos
  rw [lt_div_iff₀ den_pos', div_lt_iff₀ den_pos']
  constructor
  · calc (2 : ℚ) ^ ((num.log2 : ℤ) - den.log2 - 1) * den
        < 2 ^ ((num.log2 : ℤ) - den.log2 - 1) * 2 ^ (den.log2 + 1 : ℤ) :=
          mul_lt_mul_of_pos_left (lt_two_zpow_log2 den) (two_zpow_pos _)
      _ = 2 ^ (num.log2 : ℤ) := by
          rw [← zpow_add₀ two_ne_zero]
          congr 1
          omega
      _ ≤ num := two_zpow_log2_le num_pos
  · calc (num : ℚ) < 2 ^ (num.log2 + 1 : ℤ) := lt_two_zpow_log2 num
      _ = 2 ^ ((num.log2 : ℤ) - den.log2 + 1) * 2 ^ (den.log2 : ℤ) := by
          rw [← zpow_add₀ two_ne_zero]
          congr 1
          omega
      _ ≤ 2 ^ ((num.log2 : ℤ) - den.log2 + 1) * den :=
          mul_le_mul_of_nonneg_left (two_zpow_log2_le den_pos) (two_zpow_pos _).le

theorem two_zpow_le_div_iff {num den : ℕ} (den_pos : 0 < den) (e : ℤ) :
    den * Nat.pow 2 e.toNat ≤ num * Nat.pow 2 (-e).toNat ↔ (2 : ℚ) ^ e ≤ num / den := by
  have unit_pos : (0 : ℚ) < (den * Nat.pow 2 e.toNat : ℕ) :=
    Nat.cast_pos.2 (Nat.mul_pos den_pos (Nat.pow_pos (by decide)))
  rw [← one_le_div₀ (two_zpow_pos e), ← scaled_div, one_le_div₀ unit_pos, Nat.cast_le]

theorem lastPlace_eq {num den : ℕ} {top : ℤ} (num_pos : 0 < num) (den_pos : 0 < den)
    (low : (2 : ℚ) ^ top ≤ num / den) (high : (num / den : ℚ) < 2 ^ (top + 1)) :
    lastPlace num den = max (top - 52) (-1074) := by
  obtain ⟨logLow, logHigh⟩ := two_zpow_log2_sub_lt num_pos den_pos
  have atMost := two_zpow_lt_iff.1 (low.trans_lt logHigh)
  have atLeast := two_zpow_lt_iff.1 (logLow.trans high)
  unfold lastPlace
  simp only [two_zpow_le_div_iff den_pos]
  generalize (num.log2 : ℤ) - den.log2 = size at *
  by_cases reached : (2 : ℚ) ^ size ≤ num / den
  · have := two_zpow_lt_iff.1 (reached.trans_lt high)
    rw [if_pos reached]
    congr 2
    omega
  · have := two_zpow_lt_iff.1 (low.trans_lt (not_le.1 reached))
    rw [if_neg reached]
    congr 2
    omega

section

variable {q : ℚ} {m : ℕ} {e : ℤ}

/-- The middle of the gap below the float. -/
theorem Rounds.sub_le (rounds : Rounds q m e) : (4 * m - 2) * 2 ^ (e - 2) ≤ q := by
  refine le_trans (mul_le_mul_of_nonneg_right ?_ (two_zpow_pos _).le) rounds.low
  have : (quartersBelow m e : ℚ) ≤ 2 := by exact_mod_cast quartersBelow_le m e
  linarith

theorem Rounds.pos (rounds : Rounds q m e) (pos : 0 < m) : 0 < q := by
  refine lt_of_lt_of_le (mul_pos ?_ (two_zpow_pos (e - 2))) rounds.sub_le
  have : (1 : ℚ) ≤ m := by exact_mod_cast pos
  linarith

theorem Rounds.lt (rounds : Rounds q m e) (float : IsFinite m e) : q < 2 ^ (53 + e) := by
  have size : (m : ℚ) + 1 ≤ 2 ^ 53 := by
    have := float.lt
    rw [unitBit] at this
    exact_mod_cast (by omega : m + 1 ≤ 2 ^ 53)
  have := two_zpow_pos (e - 2)
  rw [two_zpow_eq (e := e) 55 (by omega)]
  nlinarith [rounds.high]

theorem Rounds.two_zpow_le (rounds : Rounds q unitBit e) : 2 ^ (51 + e) ≤ q := by
  rw [two_zpow_eq (e := e) 53 (by omega)]
  refine le_trans (mul_le_mul_of_nonneg_right ?_ (two_zpow_pos _).le) rounds.sub_le
  rw [unitBit]
  norm_num

/-- Below the binade of its own exponent a float has only the quarter below a power of two. -/
theorem Rounds.mantissa_eq (rounds : Rounds q m e) (float : IsFinite m e) (least : -1074 < e)
    (small : q < 2 ^ (52 + e)) : m = unitBit := by
  have normal := float.normal.resolve_right least.ne'
  have bound : (4 * m - 2 : ℚ) < 2 ^ 54 := by
    rw [two_zpow_eq (e := e) 54 (by omega)] at small
    exact lt_of_mul_lt_mul_right (rounds.sub_le.trans_lt small) (two_zpow_pos _).le
  have : 4 * m < 2 ^ 54 + 2 := by
    have : (4 * m : ℚ) < 2 ^ 54 + 2 := by linarith
    exact_mod_cast this
  rw [unitBit] at normal ⊢
  omega

end

section

variable {num den m : ℕ} {e : ℤ}

theorem divHalfEven_scaled {r : ℕ} (den_pos : 0 < den) (low : (r - 1 / 2) * 2 ^ e ≤ (num / den : ℚ))
    (high : (num / den : ℚ) ≤ (r + 1 / 2) * 2 ^ e)
    (odd : r % 2 = 1 → (r - 1 / 2) * 2 ^ e < (num / den : ℚ) ∧
      (num / den : ℚ) < (r + 1 / 2) * 2 ^ e) :
    divHalfEven (num * Nat.pow 2 (-e).toNat) (den * Nat.pow 2 e.toNat) = r := by
  have unit_pos : 0 < den * Nat.pow 2 e.toNat := Nat.mul_pos den_pos (Nat.pow_pos (by decide))
  apply divHalfEven_eq unit_pos
  · rw [scaled_div, le_div_iff₀ (two_zpow_pos e)]
    exact low
  · rw [scaled_div, div_le_iff₀ (two_zpow_pos e)]
    exact high
  · rw [scaled_div, lt_div_iff₀ (two_zpow_pos e), div_lt_iff₀ (two_zpow_pos e)]
    exact odd

/-- Rounding at the last place of the float gives its mantissa. -/
theorem Rounds.divHalfEven_eq (rounds : Rounds (num / den) m e) (den_pos : 0 < den) :
    divHalfEven (num * Nat.pow 2 (-e).toNat) (den * Nat.pow 2 e.toNat) = m := by
  apply divHalfEven_scaled den_pos <;> rw [two_zpow_eq_four_mul e]
  · linarith [rounds.sub_le]
  · linarith [rounds.high]
  · intro odd
    have quarters : quartersBelow m e = 2 := if_neg fun h => by
      rw [h.1, unitBit] at odd
      omega
    obtain ⟨low, high⟩ := rounds.odd odd
    rw [quarters] at low
    push_cast at low
    constructor <;> linarith

/-- In the binade below a power of two the rounding carries. -/
theorem Rounds.divHalfEven_eq_carry (rounds : Rounds (num / den) unitBit e) (least : -1074 < e)
    (den_pos : 0 < den) (small : (num / den : ℚ) < 2 ^ (52 + e)) :
    divHalfEven (num * Nat.pow 2 (-(e - 1)).toNat) (den * Nat.pow 2 (e - 1).toNat) = 2 * unitBit := by
  have quarters : quartersBelow unitBit e = 1 := if_pos ⟨rfl, least⟩
  have unit := two_zpow_eq (a := e - 1) (e := e) 1 (by omega)
  have low := rounds.low
  rw [quarters] at low
  rw [two_zpow_eq (e := e) 54 (by omega)] at small
  have positive := two_zpow_pos (e - 2)
  apply divHalfEven_scaled den_pos
  · rw [unit]
    simp only [unitBit] at low ⊢
    push_cast at low ⊢
    linarith
  · rw [unit]
    simp only [unitBit]
    push_cast
    linarith
  · intro odd
    rw [unitBit] at odd
    omega

theorem magnitude_eq (den_pos : 0 < den) (float : IsFinite m e) (pos : 0 < m)
    (rounds : Rounds (num / den) m e) :
    magnitude num den = (e + 1074).toNat * unitBit + m := by
  have quotient_pos := rounds.pos pos
  have num_pos : 0 < num := Nat.pos_of_ne_zero fun none => by simp [none] at quotient_pos
  obtain ⟨top, low, high⟩ := exists_mem_Ico_zpow quotient_pos (show (1 : ℚ) < 2 by norm_num)
  have atMost := two_zpow_lt_iff.1 (low.trans_lt (rounds.lt float))
  have place := lastPlace_eq num_pos den_pos low high
  have size := float.lt
  have greatest := float.greatest
  have least := float.least
  unfold magnitude
  rw [if_neg num_pos.ne']
  by_cases regular : top = 52 + e ∨ e = -1074
  · have exponent : lastPlace num den = e := by omega
    simp only [exponent, rounds.divHalfEven_eq den_pos]
    rw [unitBit] at size ⊢
    omega
  · have above : -1074 < e := by omega
    have small : (num / den : ℚ) < 2 ^ (52 + e) :=
      high.trans_le (zpow_le_zpow_right₀ (by norm_num) (by omega))
    obtain rfl := rounds.mantissa_eq float above small
    have atLeast := two_zpow_lt_iff.1 (rounds.two_zpow_le.trans_lt high)
    have exponent : lastPlace num den = e - 1 := by omega
    simp only [exponent, rounds.divHalfEven_eq_carry above den_pos small]
    rw [unitBit]
    omega

end

end Outlay.Binary64
