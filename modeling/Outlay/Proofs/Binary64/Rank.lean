import Outlay.Proofs.Binary64.Value

/-!
# The order of ranks

Ranks of numbers are in the order of the numbers; of the two zeros the negative one comes first, and what is
no number comes last. No two floats share a rank.
-/

namespace Outlay.Binary64

variable {x y : Float} {negative : Bool} {m n : ℕ} {e f : ℤ}

/-! Words without their sign. -/

/-- The word of a mantissa and an exponent. -/
def word (m : ℕ) (e : ℤ) : ℕ := (e + 1074).toNat * unitBit + m

theorem word_lt (a : IsFinite m e) : word m e < 2047 * unitBit := by
  obtain ⟨lt, least, greatest, normal⟩ := a
  rw [word]
  rw [unitBit] at *
  omega

/-- Words are in the order of the numbers: in both a larger exponent outweighs every mantissa. -/
theorem cmp_word_eq_cmp (a : IsFinite m e) (b : IsFinite n f) :
    cmp (word m e) (word n f) = cmp (m * 2 ^ e : ℚ) (n * 2 ^ f) := by
  rw [← then_compare_eq_cmp a b]
  obtain ⟨small, least, -, normal⟩ := a
  obtain ⟨small', least', -, normal'⟩ := b
  rw [unitBit] at *
  rcases lt_trichotomy e f with less | rfl | greater
  · have below : word m e < word n f := by
      rw [word, word, unitBit]
      omega
    rw [below.cmp_eq_lt, Int.compare_eq_lt.2 less]
    rfl
  · have shifted : StrictMono fun k : ℕ => (e + 1074).toNat * unitBit + k := fun _ _ h =>
      Nat.add_lt_add_left h _
    rw [Int.compare_eq_eq.2 rfl, word, word, shifted.cmp_map_eq m n, cmp_eq_compare]
    rfl
  · have above : word n f < word m e := by
      rw [word, word, unitBit]
      omega
    rw [above.cmp_eq_gt, Int.compare_eq_gt.2 greater]
    rfl

theorem word_lt_word_iff (a : IsFinite m e) (b : IsFinite n f) :
    word m e < word n f ↔ (m * 2 ^ e : ℚ) < n * 2 ^ f := by
  rw [← cmp_eq_lt_iff, cmp_word_eq_cmp a b, cmp_eq_lt_iff]

theorem word_eq_word_iff (a : IsFinite m e) (b : IsFinite n f) :
    word m e = word n f ↔ (m * 2 ^ e : ℚ) = n * 2 ^ f := by
  rw [← cmp_eq_eq_iff, cmp_word_eq_cmp a b, cmp_eq_eq_iff]

/-! Ranks. -/

/-- Up from zero, or down from minus one. -/
def rankOfWord (negative : Bool) (word : ℕ) : ℤ := if negative then -1 - word else word

@[simp] theorem rankOfWord_false (word : ℕ) : rankOfWord false word = word := rfl

@[simp] theorem rankOfWord_true (word : ℕ) : rankOfWord true word = -1 - word := rfl

theorem rankOfWord_false_lt_false {k l : ℕ} (less : k < l) : rankOfWord false k < rankOfWord false l := by
  rw [rankOfWord_false, rankOfWord_false]
  omega

theorem rankOfWord_true_lt_true {k l : ℕ} (less : l < k) : rankOfWord true k < rankOfWord true l := by
  rw [rankOfWord_true, rankOfWord_true]
  omega

theorem rankOfWord_true_lt_false (k l : ℕ) : rankOfWord true k < rankOfWord false l := by
  rw [rankOfWord_true, rankOfWord_false]
  omega

theorem rank_ofMagnitude (negative : Bool) {word : ℕ} (h : word ≤ 2047 * unitBit) :
    rank (ofMagnitude negative word) = rankOfWord negative word := by
  rw [rank, toBits_ofMagnitude negative h, rankOfWord]
  rw [unitBit] at h
  rw [signBit]
  split <;> split <;> omega

theorem rank_of_finite (h : parts x = .finite negative m e) : rank x = rankOfWord negative (word m e) := by
  rw [← ofMagnitude_of_parts h]
  exact rank_ofMagnitude negative (word_lt (isFinite_of_parts h)).le

theorem rank_of_infinite (h : parts x = .infinite negative) :
    rank x = rankOfWord negative (2047 * unitBit) := by
  rw [← eq_infinity_of_parts h]
  exact rank_ofMagnitude negative le_rfl

theorem rank_of_nan (h : parts x = .nan) : rank x = 2047 * unitBit + unitBit / 2 := by
  rw [eq_nan_of_parts h]
  decide +kernel

theorem neg_signBit_le_rank (x : Float) : -signBit ≤ rank x := by
  have size := x.toBits.toNat_lt
  rw [rank, signBit]
  split <;> omega

theorem rank_injective {x y : Float} (same : rank x = rank y) : x = y := by
  have words : x.toBits = y.toBits := by
    rw [← UInt64.toNat_inj]
    rw [rank, rank] at same
    split at same <;> split at same <;> omega
  rw [← Float.ofBits_toBits x, words, Float.ofBits_toBits]

/-- The ranks of numbers lie between those of the infinities. -/
theorem rank_bounds (number : parts x ≠ .nan) : -1 - 2047 * unitBit ≤ rank x ∧ rank x ≤ 2047 * unitBit := by
  cases px : parts x with
  | nan => exact absurd px number
  | infinite s =>
    rw [rank_of_infinite px, rankOfWord, unitBit]
    split <;> omega
  | finite s m e =>
    have bound := word_lt (isFinite_of_parts px)
    rw [rank_of_finite px, rankOfWord]
    rw [unitBit] at *
    split <;> omega

theorem parts_eq_nan (h : x.isNaN = true) : parts x = .nan := by
  by_contra number
  rw [isNaN_eq_false_iff.2 number] at h
  cases h

theorem eq_nan_of_isNaN (h : x.isNaN = true) : x = 0.0 / 0.0 := eq_nan_of_parts (parts_eq_nan h)

/-- What is no number comes behind the numbers. -/
theorem rank_lt_of_isNaN (hx : x.isNaN = false) (hy : y.isNaN = true) : rank x < rank y := by
  have bound := (rank_bounds (isNaN_eq_false_iff.1 hx)).2
  rw [rank_of_nan (parts_eq_nan hy)]
  rw [unitBit] at *
  omega

/-! The order of numbers. -/

theorem mul_two_zpow_nonneg (m : ℕ) (e : ℤ) : (0 : ℚ) ≤ m * 2 ^ e :=
  mul_nonneg (Nat.cast_nonneg _) (two_zpow_pos e).le

theorem rankOfWord_lt_of_value_lt {s t : Bool} (a : IsFinite m e) (b : IsFinite n f)
    (less : (Parts.finite s m e).value < (Parts.finite t n f).value) :
    rankOfWord s (word m e) < rankOfWord t (word n f) := by
  cases s with
  | false =>
    cases t with
    | false =>
      simp only [Parts.value, Bool.false_eq_true, if_false] at less
      exact rankOfWord_false_lt_false ((word_lt_word_iff a b).2 less)
    | true =>
      simp only [Parts.value, Bool.false_eq_true, if_false, if_true] at less
      have below := less.trans_le (neg_nonpos.2 (mul_two_zpow_nonneg n f))
      exact absurd below (mul_two_zpow_nonneg m e).not_gt
  | true =>
    cases t with
    | false => exact rankOfWord_true_lt_false _ _
    | true =>
      simp only [Parts.value, if_true, neg_lt_neg_iff] at less
      exact rankOfWord_true_lt_true ((word_lt_word_iff b a).2 less)

theorem isNaN_eq_false_of_lt (h : x < y) : x.isNaN = false ∧ y.isNaN = false :=
  isNaN_eq_false_of_le (le_iff_compare.2 ⟨.lt, lt_iff_compare.1 h, rfl⟩)

/-- The infinities are at the ends, and what is finite is compared by its number. -/
theorem rank_lt_of_lt (h : x < y) : rank x < rank y := by
  obtain ⟨hx, hy⟩ := isNaN_eq_false_of_lt h
  have less := (lt_iff_number_lt hx hy).1 h
  rw [isNaN_eq_false_iff] at hx hy
  cases px : parts x with
  | nan => exact absurd px hx
  | infinite s =>
    cases s with
    | false =>
      rw [px] at less
      exact absurd less (not_lt.2 le_top)
    | true =>
      rw [rank_of_infinite px]
      cases py : parts y with
      | nan => exact absurd py hy
      | infinite t =>
        rw [px, py] at less
        rw [rank_of_infinite py]
        cases t with
        | false => exact rankOfWord_true_lt_false _ _
        | true => exact absurd less (lt_irrefl _)
      | finite t n f =>
        have bound := word_lt (isFinite_of_parts py)
        rw [rank_of_finite py]
        cases t with
        | false => exact rankOfWord_true_lt_false _ _
        | true => exact rankOfWord_true_lt_true bound
  | finite s m e =>
    cases py : parts y with
    | nan => exact absurd py hy
    | infinite t =>
      have bound := word_lt (isFinite_of_parts px)
      rw [px, py] at less
      rw [rank_of_finite px, rank_of_infinite py]
      cases t with
      | true => exact absurd less not_lt_bot
      | false =>
        cases s with
        | false => exact rankOfWord_false_lt_false bound
        | true => exact rankOfWord_true_lt_false _ _
    | finite t n f =>
      rw [px, py] at less
      rw [rank_of_finite px, rank_of_finite py]
      refine rankOfWord_lt_of_value_lt (isFinite_of_parts px) (isFinite_of_parts py) ?_
      exact WithTop.coe_lt_coe.1 (WithBot.coe_lt_coe.1 less)

/-! Numbers that tie. -/

theorem rank_negZero : rank (-0.0) < rank 0.0 := by decide +kernel

theorem eq_zero_of_parts (h : parts x = .finite negative m e) (zero : (m * 2 ^ e : ℚ) = 0) :
    x = if negative then -0.0 else 0.0 := by
  have none : m = 0 := Nat.cast_eq_zero.1 ((mul_eq_zero.1 zero).resolve_right (two_zpow_pos e).ne')
  rw [← nearest_zero h none]
  cases negative <;> decide +kernel

/-- The same number is the same float, but for the zeros. -/
theorem eq_or_zeros_of_value_eq {s t : Bool} (px : parts x = .finite s m e) (py : parts y = .finite t n f)
    (same : (Parts.finite s m e).value = (Parts.finite t n f).value) :
    x = y ∨ x = -0.0 ∧ y = 0.0 ∨ x = 0.0 ∧ y = -0.0 := by
  have first := mul_two_zpow_nonneg m e
  have second := mul_two_zpow_nonneg n f
  have words := word_eq_word_iff (isFinite_of_parts px) (isFinite_of_parts py)
  have rankX := rank_of_finite px
  have rankY := rank_of_finite py
  cases s with
  | false =>
    cases t with
    | false =>
      simp only [Parts.value, Bool.false_eq_true, if_false] at same
      exact .inl (rank_injective (by rw [rankX, rankY, words.2 same]))
    | true =>
      simp only [Parts.value, Bool.false_eq_true, if_false, if_true] at same
      have zero : (m * 2 ^ e : ℚ) = 0 := by linarith
      have zero' : (n * 2 ^ f : ℚ) = 0 := by linarith
      exact .inr (.inr ⟨eq_zero_of_parts px zero, eq_zero_of_parts py zero'⟩)
  | true =>
    cases t with
    | false =>
      simp only [Parts.value, Bool.false_eq_true, if_false, if_true] at same
      have zero : (m * 2 ^ e : ℚ) = 0 := by linarith
      have zero' : (n * 2 ^ f : ℚ) = 0 := by linarith
      exact .inr (.inl ⟨eq_zero_of_parts px zero, eq_zero_of_parts py zero'⟩)
    | true =>
      simp only [Parts.value, if_true, neg_inj] at same
      exact .inl (rank_injective (by rw [rankX, rankY, words.2 same]))

theorem eq_or_zeros_of_number_eq (hx : parts x ≠ .nan) (hy : parts y ≠ .nan)
    (same : (parts x).number = (parts y).number) : x = y ∨ x = -0.0 ∧ y = 0.0 ∨ x = 0.0 ∧ y = -0.0 := by
  cases px : parts x with
  | nan => exact absurd px hx
  | infinite s =>
    cases py : parts y with
    | nan => exact absurd py hy
    | infinite t =>
      rw [px, py] at same
      obtain rfl : s = t := by cases s <;> cases t <;> first | rfl | cases same
      exact .inl ((eq_infinity_of_parts px).symm.trans (eq_infinity_of_parts py))
    | finite t n f =>
      rw [px, py] at same
      cases s <;> cases same
  | finite s m e =>
    cases py : parts y with
    | nan => exact absurd py hy
    | infinite t =>
      rw [px, py] at same
      cases t <;> cases same
    | finite t n f =>
      rw [px, py] at same
      exact eq_or_zeros_of_value_eq px py (WithTop.coe_injective (WithBot.coe_injective same))

/-- Of two numbers one is less, or they are the same float or the two zeros. -/
theorem lt_or_lt_or_eq_or_zeros (hx : x.isNaN = false) (hy : y.isNaN = false) :
    x < y ∨ y < x ∨ x = y ∨ x = -0.0 ∧ y = 0.0 ∨ x = 0.0 ∧ y = -0.0 := by
  rw [lt_iff_number_lt hx hy, lt_iff_number_lt hy hx]
  rw [isNaN_eq_false_iff] at hx hy
  rcases lt_trichotomy (parts x).number (parts y).number with less | same | greater
  · exact .inl less
  · exact .inr (.inr (eq_or_zeros_of_number_eq hx hy same))
  · exact .inr (.inl greater)

end Outlay.Binary64
