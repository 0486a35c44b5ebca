import Outlay.Decimal.Layout
import Outlay.Proofs.Query.Grammar
import Outlay.Proofs.Text.Trim

/-!
# Runs of digits
-/

namespace Outlay.Decimal

open Query (MaximalRun)

theorem isDigit_of_mem_toDigits {n : Nat} : ∀ c ∈ Nat.toDigits 10 n, c.isDigit = true :=
  fun _ member => Nat.isDigit_of_mem_toDigits (by decide) (by decide) member

theorem maximalRun_toDigits (n : Nat) {rest : List Char} (ends : ∀ c ∈ rest.head?, c.isDigit = false) :
    MaximalRun Char.isDigit (Nat.toDigits 10 n) rest := ⟨isDigit_of_mem_toDigits, ends⟩

/-- A run of digits ends at any other character. -/
theorem maximalRun_cons {digits : List Char} (all : ∀ c ∈ digits, c.isDigit = true) {c : Char}
    (other : c.isDigit = false) (rest : List Char) : MaximalRun Char.isDigit digits (c :: rest) := by
  refine ⟨all, ?_⟩
  rintro c' ⟨⟩
  exact other

theorem digitChar_ne_zero : ∀ d < 10, 0 < d → Nat.digitChar d ≠ '0' := by decide

/-- The digits of a positive number start with no zero. -/
theorem exists_toDigits_eq_cons {n : Nat} (h : 0 < n) :
    ∃ c rest, Nat.toDigits 10 n = c :: rest ∧ c ≠ '0' := by
  induction n using Nat.strongRecOn with
  | ind n ih =>
    by_cases small : n < 10
    · exact ⟨Nat.digitChar n, [], Nat.toDigits_of_lt_base small, digitChar_ne_zero n small h⟩
    · obtain ⟨c, rest, shorter, nonzero⟩ := ih (n / 10) (by omega) (by omega)
      refine ⟨c, rest ++ [Nat.digitChar (n % 10)], ?_, nonzero⟩
      rw [Nat.toDigits_of_base_le (by decide) (by omega), shorter]
      rfl

theorem sign_digits {s : List Char} (digits : ∀ c ∈ s, c.isDigit = true) : sign s = (false, s) := by
  unfold sign
  split
  next => exact absurd (digits '-' List.mem_cons_self) (by decide)
  next => exact absurd (digits '+' List.mem_cons_self) (by decide)
  next => rfl

theorem sign_intText (n : Int) : sign (intText n) = (decide (n < 0), Nat.toDigits 10 n.natAbs) := by
  unfold intText signed
  by_cases negative : n < 0
  · simp [negative, sign]
  · simp [negative, sign_digits isDigit_of_mem_toDigits]

theorem isTrimmed_intText (n : Int) : Text.IsTrimmed (intText n) := by
  apply Text.isTrimmed_of_forall
  have digits : ∀ c ∈ Nat.toDigits 10 n.natAbs, Text.isBlank c = false :=
    fun c member => Text.isBlank_eq_false_of_isDigit (isDigit_of_mem_toDigits c member)
  unfold intText signed
  split
  · exact List.forall_mem_cons.2 ⟨rfl, digits⟩
  · exact digits

end Outlay.Decimal
