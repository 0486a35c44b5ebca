import Mathlib
import Outlay.Proofs.Decimal.Digits

/-!
# Digits around a point

The digits of a number are written with the point behind, among or before them, and there is a digit on
both sides of it.
-/

namespace Outlay.Decimal

theorem ofDigitChars_zeros (s : List Char) (n : ℕ) :
    Nat.ofDigitChars 10 (zeros n ++ s) 0 = Nat.ofDigitChars 10 s 0 := by
  rw [Nat.ofDigitChars_append, zeros, Nat.ofDigitChars_replicate_zero, Nat.mul_zero]

theorem isDigit_of_mem_zeros {n : ℕ} : ∀ c ∈ zeros n, c.isDigit = true := by
  intro c member
  rw [List.eq_of_mem_replicate member]
  rfl

/-- The text has these digits before and after its point, and no zero in front of others. They write
`digits * 10 ^ exponent`. -/
structure IsPointed (text whole fraction : List Char) (digits : ℕ) (exponent : ℤ) : Prop where
  text_eq : text = whole ++ '.' :: fraction
  wholeDigits : ∀ c ∈ whole, c.isDigit = true
  wholeNonempty : whole ≠ []
  leading : ∀ more, whole = '0' :: more → more = []
  fractionDigits : ∀ c ∈ fraction, c.isDigit = true
  fractionNonempty : fraction ≠ []
  digits_eq : Nat.ofDigitChars 10 (whole ++ fraction) 0 = digits
  exponent_eq : -(fraction.length : ℤ) = exponent

theorem IsPointed.ofPlaces_eq {text whole fraction : List Char} {digits : ℕ} {exponent : ℤ}
    (h : IsPointed text whole fraction digits exponent) (negative : Bool) :
    ofPlaces negative whole fraction 0 = ⟨negative, digits, exponent⟩ := by
  rw [ofPlaces, h.digits_eq, zero_sub, h.exponent_eq]

section

variable {n : ℕ} {place : ℤ}

/-- The point stands behind the last digit. -/
theorem isPointed_whole (valid : n = 0 → place = 0) (whole : 0 ≤ place) :
    IsPointed (pointed (Nat.toDigits 10 n) place) (Nat.toDigits 10 n ++ zeros place.toNat) ['0']
      (n * 10 ^ (place.toNat + 1)) (-1) where
  text_eq := by rw [pointed, if_pos whole]
  wholeDigits := List.forall_mem_append.2 ⟨isDigit_of_mem_toDigits, isDigit_of_mem_zeros⟩
  wholeNonempty := List.append_ne_nil_of_left_ne_nil Nat.toDigits_ne_nil _
  leading := by
    intro more front
    rcases Nat.eq_zero_or_pos n with rfl | positive
    · rw [valid rfl] at front
      exact (List.cons.inj front).2.symm
    · obtain ⟨c, others, digits, nonzero⟩ := exists_toDigits_eq_cons positive
      rw [digits] at front
      exact absurd (List.cons.inj front).1 nonzero
  fractionDigits := List.forall_mem_singleton.2 rfl
  fractionNonempty := List.cons_ne_nil _ _
  digits_eq := by
    rw [List.append_assoc, Nat.ofDigitChars_append, Nat.ofDigitChars_ten_toDigits, zeros,
      ← List.replicate_succ' (n := place.toNat) (a := '0'), Nat.ofDigitChars_replicate_zero, Nat.mul_comm]
  exponent_eq := rfl

/-- The point stands among the digits. -/
theorem isPointed_inside (positive : 0 < n) (fraction : place < 0)
    (inside : 0 < (Nat.toDigits 10 n).length + place) :
    IsPointed (pointed (Nat.toDigits 10 n) place)
      ((Nat.toDigits 10 n).take ((Nat.toDigits 10 n).length + place).toNat)
      ((Nat.toDigits 10 n).drop ((Nat.toDigits 10 n).length + place).toNat) n place := by
  obtain ⟨c, others, digits, nonzero⟩ := exists_toDigits_eq_cons positive
  obtain ⟨w, split⟩ := Int.eq_succ_of_zero_lt inside
  have count : ((Nat.toDigits 10 n).length + place).toNat = w + 1 := by omega
  have places : -(((Nat.toDigits 10 n).drop (w + 1)).length : ℤ) = place := by
    rw [List.length_drop]
    omega
  rw [count]
  constructor
  · rw [pointed, if_neg (not_le.2 fraction), if_pos inside, count]
  · exact fun c member => isDigit_of_mem_toDigits c (List.mem_of_mem_take member)
  · rw [digits, List.take_succ_cons]
    exact List.cons_ne_nil _ _
  · intro more front
    rw [digits, List.take_succ_cons] at front
    exact absurd (List.cons.inj front).1 nonzero
  · exact fun c member => isDigit_of_mem_toDigits c (List.mem_of_mem_drop member)
  · intro empty
    rw [empty] at places
    simp only [List.length_nil] at places
    omega
  · rw [List.take_append_drop, Nat.ofDigitChars_ten_toDigits]
  · exact places

/-- The point stands before the digits. -/
theorem isPointed_before (fraction : place < 0) (before : (Nat.toDigits 10 n).length + place ≤ 0) :
    IsPointed (pointed (Nat.toDigits 10 n) place) ['0']
      (zeros (-((Nat.toDigits 10 n).length + place)).toNat ++ Nat.toDigits 10 n) n place where
  text_eq := by rw [pointed, if_neg (not_le.2 fraction), if_neg (not_lt.2 before)]; rfl
  wholeDigits := List.forall_mem_singleton.2 rfl
  wholeNonempty := List.cons_ne_nil _ _
  leading more same := (List.cons.inj same).2.symm
  fractionDigits := List.forall_mem_append.2 ⟨isDigit_of_mem_zeros, isDigit_of_mem_toDigits⟩
  fractionNonempty := List.append_ne_nil_of_right_ne_nil _ Nat.toDigits_ne_nil
  digits_eq := (ofDigitChars_zeros _ _).trans Nat.ofDigitChars_ten_toDigits
  exponent_eq := by
    rw [List.length_append, zeros, List.length_replicate]
    omega

/-- Wherever the point stands, the number is that of the digits at their place. -/
theorem exists_isPointed (valid : n = 0 → place = 0) :
    ∃ whole fraction, IsPointed (pointed (Nat.toDigits 10 n) place) whole fraction
      (if 0 ≤ place then n * 10 ^ (place.toNat + 1) else n) (if 0 ≤ place then -1 else place) := by
  by_cases behind : 0 ≤ place
  · rw [if_pos behind, if_pos behind]
    exact ⟨_, _, isPointed_whole valid behind⟩
  · have fraction := not_le.1 behind
    rw [if_neg behind, if_neg behind]
    by_cases inside : 0 < ((Nat.toDigits 10 n).length : ℤ) + place
    · have positive : 0 < n := Nat.pos_of_ne_zero fun none => fraction.ne (valid none)
      exact ⟨_, _, isPointed_inside positive fraction inside⟩
    · exact ⟨_, _, isPointed_before fraction (not_lt.1 inside)⟩

end

end Outlay.Decimal
