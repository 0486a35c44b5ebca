import Mathlib
import Outlay.Proofs.Text.Blank
import Outlay.Text.Lowercase

/-!
# Texts up to the case of ASCII letters

All ASCII letters are alike in being letters, cased, not blank and not passed over in front of a
sigma, so texts that differ in the case of such letters alone have the same lowercase form, also
where a sigma stands beside them.
-/

namespace Outlay.Text

/-- The ASCII capitals become small letters, and no other character changes. -/
def foldCase (s : List Char) : List Char := s.map Char.toLower

/-- The texts are equally long and differ at most in the case of ASCII letters. -/
def SameButCase (s s' : String) : Prop := foldCase s.toList = foldCase s'.toList

instance (s s' : String) : Decidable (SameButCase s s') := inferInstanceAs (Decidable (_ = _))

@[simp] theorem foldCase_cons (c : Char) (s : List Char) :
    foldCase (c :: s) = c.toLower :: foldCase s := rfl

@[simp] theorem foldCase_append (s s' : List Char) :
    foldCase (s ++ s') = foldCase s ++ foldCase s' := List.map_append

@[simp] theorem isEmpty_foldCase (s : List Char) : (foldCase s).isEmpty = s.isEmpty := List.isEmpty_map

theorem isAlpha_of_isUpper {c : Char} (upper : c.isUpper = true) : c.isAlpha = true :=
  Bool.or_eq_true_iff.2 (.inl upper)

/-- What all ASCII letters have alike does not depend on their case. -/
theorem apply_toLower {α : Type} {f : Char → α} {a : α} (alike : ∀ c, c.isAlpha = true → f c = a)
    (c : Char) : f c.toLower = f c := by
  by_cases upper : c.isUpper = true
  · have alpha := isAlpha_of_isUpper upper
    have alphaSmall : c.toLower.isAlpha = true := (Char.isAlpha_toLower_eq_isAlpha c).trans alpha
    rw [alike c alpha, alike c.toLower alphaSmall]
  · rw [Char.toLower_eq_of_not_isUpper upper]

theorem toLower_eq_iff {c d : Char} (other : d.isAlpha = false) : c.toLower = d ↔ c = d := by
  have apart : ∀ c, c.isAlpha = true → decide (c = d) = false := by
    intro c alpha
    apply decide_eq_false
    rintro rfl
    exact Bool.false_ne_true (other.symm.trans alpha)
  exact decide_eq_decide.1 (apply_toLower apart c)

theorem foldCase_eq_self {s : List Char} (other : ∀ c ∈ s, c.isAlpha = false) : foldCase s = s := by
  have unchanged : ∀ c ∈ s, c.toLower = id c := by
    intro c member
    apply Char.toLower_eq_of_not_isUpper
    intro upper
    have alpha := isAlpha_of_isUpper upper
    rw [other c member] at alpha
    cases alpha
  rw [foldCase, List.map_congr_left unchanged, List.map_id]

theorem mem_foldCase_iff {c : Char} (other : c.isAlpha = false) {s : List Char} :
    c ∈ foldCase s ↔ c ∈ s := by
  simp [foldCase, toLower_eq_iff other]

theorem isPrefixOf_foldCase {front : List Char} (other : ∀ c ∈ front, c.isAlpha = false)
    (s : List Char) : front.isPrefixOf (foldCase s) = front.isPrefixOf s := by
  induction front generalizing s with
  | nil => rfl
  | cons d front ih =>
    rw [List.forall_mem_cons] at other
    cases s with
    | nil => rfl
    | cons c s =>
      have first : (d == c.toLower) = (d == c) := by
        rw [Bool.eq_iff_iff, beq_iff_eq, beq_iff_eq, eq_comm, toLower_eq_iff other.1, eq_comm]
      rw [foldCase_cons, List.isPrefixOf_cons_cons, List.isPrefixOf_cons_cons, first, ih other.2]

/-- A character has the small letter of another one if it is that letter in one of its two cases. -/
theorem toLower_eq_toLower_iff {c d : Char} :
    c.toLower = d.toLower ↔ c = d.toLower ∨ c = d.toUpper := by
  constructor
  · intro same
    by_cases upper : c.isUpper = true
    · have capital : c.toUpper = c := Char.toUpper_eq_of_not_isLower (Char.not_isLower_of_isUpper upper)
      have capitals := congrArg Char.toUpper same
      rw [Char.toUpper_toLower_eq_toUpper, Char.toUpper_toLower_eq_toUpper, capital] at capitals
      exact .inr capitals
    · rw [Char.toLower_eq_of_not_isUpper upper] at same
      exact .inl same
  · rintro (rfl | rfl)
    · exact Char.toLower_toLower_eq_toLower d
    · exact Char.toLower_toUpper_eq_toLower d

theorem isDigit_eq_false_of_isAlpha {c : Char} (alpha : c.isAlpha = true) : c.isDigit = false := by
  rw [← Bool.not_eq_true]
  intro digit
  have letter := toNat_of_isAlpha alpha
  have small : c.toNat ≤ 57 := (Char.isDigit_iff_toNat.1 digit).2
  omega

theorem isDigit_toLower (c : Char) : c.toLower.isDigit = c.isDigit :=
  apply_toLower (fun _ alpha => isDigit_eq_false_of_isAlpha alpha) c

theorem isBlank_eq_false_of_isAlpha {c : Char} (alpha : c.isAlpha = true) : isBlank c = false := by
  rw [← Bool.not_eq_true]
  intro blank
  have letter := isLetter_eq_false_of_isBlank blank
  rw [isLetter_of_isAlpha alpha] at letter
  cases letter

theorem isBlank_toLower (c : Char) : isBlank c.toLower = isBlank c :=
  apply_toLower (fun _ alpha => isBlank_eq_false_of_isAlpha alpha) c

theorem isCased_toLower (c : Char) : isCased c.toLower = isCased c :=
  apply_toLower (fun _ alpha => isCased_of_isAlpha alpha) c

theorem caseIgnorableSpans_apart_letters :
    ∀ span ∈ caseIgnorableSpans, span.2 < 65 ∨ (90 < span.1 ∧ span.2 < 97) ∨ 122 < span.1 := by
  decide +kernel

theorem isCaseIgnorable_eq_false_of_isAlpha {c : Char} (alpha : c.isAlpha = true) :
    isCaseIgnorable c = false := by
  have code := toNat_of_isAlpha alpha
  rw [isCaseIgnorable, ← Bool.not_eq_true, Spans.contains_iff]
  rintro ⟨span, inTable, _, _⟩
  have := caseIgnorableSpans_apart_letters span inTable
  omega

theorem isCaseIgnorable_toLower (c : Char) : isCaseIgnorable c.toLower = isCaseIgnorable c :=
  apply_toLower (fun _ alpha => isCaseIgnorable_eq_false_of_isAlpha alpha) c

section Runs

variable {p : Char → Bool} (caseless : ∀ c, p c.toLower = p c)
include caseless

theorem takeWhile_foldCase (s : List Char) : (foldCase s).takeWhile p = foldCase (s.takeWhile p) := by
  have same : p ∘ Char.toLower = p := funext caseless
  rw [foldCase, List.takeWhile_map, same]
  rfl

theorem dropWhile_foldCase (s : List Char) : (foldCase s).dropWhile p = foldCase (s.dropWhile p) := by
  have same : p ∘ Char.toLower = p := funext caseless
  rw [foldCase, List.dropWhile_map, same]
  rfl

theorem all_foldCase (s : List Char) : (foldCase s).all p = s.all p := by
  have same : p ∘ Char.toLower = p := funext caseless
  rw [foldCase, List.all_map, same]

end Runs

theorem trim_foldCase (s : List Char) : trim (foldCase s) = foldCase (trim s) := by
  have back (t : List Char) : (foldCase t).reverse = foldCase t.reverse := List.map_reverse.symm
  simp only [trim, dropWhile_foldCase isBlank_toLower, back]

theorem startsCased_foldCase (s : List Char) : startsCased (foldCase s) = startsCased s := by
  unfold startsCased
  rw [dropWhile_foldCase isCaseIgnorable_toLower]
  cases s.dropWhile isCaseIgnorable with
  | nil => rfl
  | cons c rest => exact isCased_toLower c

theorem smallLetter_of_isUpper {c : Char} (upper : c.isUpper = true) : smallLetter c = c.toLower := by
  obtain ⟨low, high⟩ : 'A' ≤ c ∧ c ≤ 'Z' := of_decide_eq_true upper
  have code : c.toNat ≤ 90 := high
  have ascii : c.toNat < 0x80 := by omega
  rw [smallLetter, if_pos ascii, if_pos ⟨low, high⟩, Char.toLower_eq_of_isUpper upper]

theorem smallLetter_toLower (c : Char) : smallLetter c.toLower = smallLetter c := by
  by_cases upper : c.isUpper = true
  · have alpha := isAlpha_of_isUpper upper
    have code := toNat_of_isAlpha ((Char.isAlpha_toLower_eq_isAlpha c).trans alpha)
    have ascii : c.toLower.toNat < 0x80 := by omega
    have small : ¬('A' ≤ c.toLower ∧ c.toLower ≤ 'Z') :=
      of_decide_eq_false (Char.isUpper_toLower_eq_false c)
    rw [smallLetter_of_isUpper upper, smallLetter, if_pos ascii, if_neg small]
  · rw [Char.toLower_eq_of_not_isUpper upper]

theorem smallForm_toLower (c : Char) : smallForm c.toLower = smallForm c := by
  have dotted : c.toLower = 'İ' ↔ c = 'İ' := toLower_eq_iff (by decide)
  simp only [smallForm, dotted, smallLetter_toLower]

theorem lowercaseFrom_foldCase (afterCased : Bool) (s : List Char) :
    lowercaseFrom afterCased (foldCase s) = lowercaseFrom afterCased s := by
  induction s generalizing afterCased with
  | nil => rfl
  | cons c rest ih =>
    have sigma : c.toLower = 'Σ' ↔ c = 'Σ' := toLower_eq_iff (by decide)
    simp only [foldCase_cons, lowercaseFrom, sigma, startsCased_foldCase, smallForm_toLower,
      isCaseIgnorable_toLower, isCased_toLower, ih]

@[simp] theorem lowercase_foldCase (s : List Char) : lowercase (foldCase s) = lowercase s :=
  lowercaseFrom_foldCase false s

theorem SameButCase.lowercase_eq {s s' : String} (same : SameButCase s s') :
    lowercase s.toList = lowercase s'.toList := by
  rw [← lowercase_foldCase s.toList, same, lowercase_foldCase]

example : SameButCase "ΟΔΟΣa" "ΟΔΟΣA" ∧ ¬SameButCase "ΟΔΟΣ" "οδος" := by decide +kernel

end Outlay.Text
