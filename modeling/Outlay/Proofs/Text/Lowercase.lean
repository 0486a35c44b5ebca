import Outlay.Text.Lowercase

/-!
What lowercasing does to the length of a text. Only the dotted capital `İ` grows, and it occurs in
no lowercase form; so a text that stands inside its own lowercase form is all of it.
-/

namespace Outlay.Text

theorem eq_of_ofNat_eq_dottedCapital {n : Nat} (h : Char.ofNat n = 'İ') : n = 0x130 := by
  have code := congrArg Char.toNat h
  by_cases valid : n.isValidChar
  · rwa [show Char.ofNat n = Char.ofNatAux n valid from dif_pos valid] at code
  · rw [show Char.ofNat n = '\x00' from dif_neg valid] at code
    exact absurd code (by decide)

/-- No run of capitals has the dotted capital among its small letters. -/
theorem capitalRuns_avoid_dottedCapital :
    ∀ run ∈ capitalRuns, (run.2.1 : Int) + run.2.2.2 < 0x130 ∨ 0x130 < (run.1 : Int) + run.2.2.2 := by
  decide +kernel

theorem smallLetter_ne_dottedCapital {c : Char} (h : c ≠ 'İ') : smallLetter c ≠ 'İ' := by
  unfold smallLetter
  split
  · split
    · intro eq
      have := eq_of_ofNat_eq_dottedCapital eq
      omega
    · exact h
  · split
    next first last step distance found =>
      intro eq
      have code := eq_of_ofNat_eq_dottedCapital eq
      have inside := List.find?_some found
      simp only [Bool.and_eq_true, decide_eq_true_eq] at inside
      have := capitalRuns_avoid_dottedCapital _ (List.mem_of_find?_eq_some found)
      simp only at this
      omega
    · exact h

theorem dottedCapital_notMem_smallForm (c : Char) : 'İ' ∉ smallForm c := by
  unfold smallForm
  split
  · decide
  next h => simpa using (smallLetter_ne_dottedCapital h).symm

theorem length_smallForm (c : Char) : (smallForm c).length = if c = 'İ' then 2 else 1 := by
  unfold smallForm
  split <;> rfl

theorem dottedCapital_notMem_lowercaseFrom (afterCased : Bool) (s : List Char) :
    'İ' ∉ lowercaseFrom afterCased s := by
  induction s generalizing afterCased with
  | nil => simp [lowercaseFrom]
  | cons c rest ih =>
    simp only [lowercaseFrom, List.mem_append, not_or]
    refine ⟨?_, ih _⟩
    split
    · split <;> decide
    · exact dottedCapital_notMem_smallForm c

theorem dottedCapital_notMem_lowercase (s : List Char) : 'İ' ∉ lowercase s :=
  dottedCapital_notMem_lowercaseFrom false s

theorem length_lowercaseFrom (afterCased : Bool) (s : List Char) :
    (lowercaseFrom afterCased s).length = s.length + s.count 'İ' := by
  induction s generalizing afterCased with
  | nil => simp [lowercaseFrom]
  | cons c rest ih =>
    simp only [lowercaseFrom, List.length_append, ih, List.length_cons, List.count_cons]
    by_cases sigma : c = 'Σ'
    · simp [sigma]
      omega
    · rw [if_neg sigma, length_smallForm]
      by_cases dotted : c = 'İ'
      · simp [dotted]
        omega
      · simp [dotted]
        omega

theorem length_lowercase (s : List Char) : (lowercase s).length = s.length + s.count 'İ' :=
  length_lowercaseFrom false s

theorem eq_nil_of_lowercase_eq_append {s front back : List Char}
    (h : lowercase s = front ++ s ++ back) : front = [] ∧ back = [] := by
  have absent : s.count 'İ' = 0 := by
    apply List.count_eq_zero_of_not_mem
    intro inside
    apply dottedCapital_notMem_lowercase s
    simp [h, inside]
  have lengths := congrArg List.length h
  rw [length_lowercase, absent] at lengths
  simp only [List.length_append] at lengths
  exact ⟨List.length_eq_zero_iff.1 (by omega), List.length_eq_zero_iff.1 (by omega)⟩

end Outlay.Text
