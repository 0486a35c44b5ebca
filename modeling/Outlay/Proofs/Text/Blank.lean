import Outlay.Text.Blank
import Outlay.Text.Letter

/-!
Blanks are no letters, so a run of letters ends before a blank.
-/

namespace Outlay.Text

/-- The blanks as a table beside that of the letters. -/
def blankSpans : Spans := [
  (0x9, 0xD), (0x20, 0x20), (0x85, 0x85), (0xA0, 0xA0), (0x1680, 0x1680), (0x2000, 0x200A),
  (0x2028, 0x2029), (0x202F, 0x202F), (0x205F, 0x205F), (0x3000, 0x3000)]

theorem contains_blankSpans {c : Char} (h : isBlank c = true) : blankSpans.contains c = true := by
  simp only [isBlank, Bool.or_eq_true, Bool.and_eq_true, decide_eq_true_eq, beq_iff_eq] at h
  simp only [Spans.contains, blankSpans, List.any_cons, List.any_nil, Bool.or_eq_true,
    Bool.and_eq_true, decide_eq_true_eq]
  omega

theorem letterSpans_apart_blankSpans :
    letterSpans.all (fun letters => blankSpans.all fun blanks =>
      decide (blanks.2 < letters.1) || decide (letters.2 < blanks.1)) = true := by
  decide +kernel

theorem toNat_of_isAlpha {c : Char} (h : c.isAlpha = true) :
    (65 ≤ c.toNat ∧ c.toNat ≤ 90) ∨ (97 ≤ c.toNat ∧ c.toNat ≤ 122) := by
  rcases Bool.or_eq_true_iff.1 h with upper | lower
  · exact .inl (of_decide_eq_true upper)
  · obtain ⟨low, high⟩ := Bool.and_eq_true_iff.1 lower
    exact .inr ⟨of_decide_eq_true low, of_decide_eq_true high⟩

theorem isLetter_eq_false_of_isBlank {c : Char} (h : isBlank c = true) : isLetter c = false := by
  obtain ⟨blanks, blanksInTable, _, _⟩ := Spans.contains_iff.1 (contains_blankSpans h)
  have noLetter : letterSpans.contains c = false := by
    rw [← Bool.not_eq_true, Spans.contains_iff]
    rintro ⟨letters, lettersInTable, _, _⟩
    have apart := List.all_eq_true.1 letterSpans_apart_blankSpans letters lettersInTable
    have := List.all_eq_true.1 apart blanks blanksInTable
    simp only [Bool.or_eq_true, decide_eq_true_eq] at this
    omega
  have noAlpha : c.isAlpha = false := by
    have ascii : ∀ span ∈ blankSpans, span.2 < 65 ∨ 122 < span.1 := by decide
    rw [← Bool.not_eq_true]
    intro alpha
    have := ascii blanks blanksInTable
    have := toNat_of_isAlpha alpha
    omega
  simp [isLetter, noAlpha, noLetter]

end Outlay.Text
