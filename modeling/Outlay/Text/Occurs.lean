/-!
Whether a text occurs inside another.
-/

namespace Outlay.Text

/-- The needle is a run of neighbouring characters of the text. -/
def occursIn (needle : List Char) : List Char → Bool
  | [] => needle.isEmpty
  | c :: rest => needle.isPrefixOf (c :: rest) || occursIn needle rest

theorem occursIn_iff {needle text : List Char} :
    occursIn needle text = true ↔ ∃ front back, text = front ++ needle ++ back := by
  induction text with
  | nil =>
    simp only [occursIn, List.isEmpty_iff]
    constructor
    · rintro rfl
      exact ⟨[], [], rfl⟩
    · rintro ⟨front, back, h⟩
      simp_all
  | cons c rest ih =>
    simp only [occursIn, Bool.or_eq_true, List.isPrefixOf_iff_prefix, ih]
    constructor
    · rintro (⟨back, h⟩ | ⟨front, back, h⟩)
      · exact ⟨[], back, by simp [h]⟩
      · exact ⟨c :: front, back, by simp [h]⟩
    · rintro ⟨front, back, h⟩
      cases front with
      | nil => exact .inl ⟨back, by simpa using h.symm⟩
      | cons d front =>
        simp only [List.cons_append, List.cons.injEq] at h
        exact .inr ⟨front, back, h.2⟩

@[simp] theorem occursIn_nil (text : List Char) : occursIn [] text = true :=
  occursIn_iff.2 ⟨[], text, rfl⟩

end Outlay.Text
