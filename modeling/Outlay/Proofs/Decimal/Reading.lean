import Outlay.Decimal
import Outlay.Proofs.Text.Case
import Outlay.Proofs.Text.Trim

/-!
# Texts that are read as floats

Such a text is made of ASCII letters, digits, points and signs, and the case of its letters does not
matter: neither that of a name nor that of the mark in front of a power.
-/

namespace Outlay

open Text

namespace Decimal

/-! The case of letters. -/

theorem sign_foldCase (s : List Char) : sign (foldCase s) = ((sign s).1, foldCase (sign s).2) := by
  cases s with
  | nil => rfl
  | cons c rest =>
    have minus : c.toLower = '-' ↔ c = '-' := toLower_eq_iff (by decide)
    have plus : c.toLower = '+' ↔ c = '+' := toLower_eq_iff (by decide)
    by_cases negative : c = '-'
    · rw [negative]
      rfl
    · by_cases positive : c = '+'
      · rw [positive]
        rfl
      · simp [sign, minus, plus, negative, positive]

theorem foldCase_digits {s : List Char} (digits : ∀ c ∈ s, c.isDigit = true) : foldCase s = s := by
  apply foldCase_eq_self
  intro c member
  rw [← Bool.not_eq_true]
  intro alpha
  have digit := digits c member
  rw [isDigit_eq_false_of_isAlpha alpha] at digit
  cases digit

theorem takeWhile_isDigit_foldCase (s : List Char) :
    (foldCase s).takeWhile Char.isDigit = s.takeWhile Char.isDigit := by
  rw [takeWhile_foldCase isDigit_toLower]
  exact foldCase_digits fun c member => List.mem_takeWhile_imp member

theorem power?_foldCase (s : List Char) : power? (foldCase s) = power? s := by
  unfold power?
  rw [sign_foldCase]
  simp only [isEmpty_foldCase, all_foldCase isDigit_toLower]
  split
  next => rfl
  next proper =>
    have digits : (sign s).2.all Char.isDigit = true := by simp_all
    rw [foldCase_digits (List.all_eq_true.1 digits)]

theorem tail?_foldCase (s : List Char) : tail? (foldCase s) = tail? s := by
  cases s with
  | nil => rfl
  | cons c rest =>
    -- Only here a letter is told from others, and both of its cases are allowed.
    have small : c.toLower = 'e' ↔ c = 'e' ∨ c = 'E' := toLower_eq_toLower_iff (d := 'e')
    have notCapital : c.toLower ≠ 'E' := by
      intro capital
      have upper := Char.isUpper_toLower_eq_false c
      rw [capital] at upper
      cases upper
    have mark : (c.toLower = 'e' ∨ c.toLower = 'E') ↔ (c = 'e' ∨ c = 'E') := by
      rw [or_iff_left notCapital, small]
    simp only [foldCase_cons, tail?, mark, power?_foldCase]

theorem places?_foldCase (negative : Bool) (s : List Char) :
    places? negative (foldCase s) = places? negative s := by
  unfold places?
  rw [takeWhile_isDigit_foldCase, dropWhile_foldCase isDigit_toLower]
  cases s.dropWhile Char.isDigit with
  | nil => rfl
  | cons c rest =>
    by_cases point : c = '.'
    · have same : '.'.toLower = '.' := rfl
      simp only [point, foldCase_cons, same, takeWhile_isDigit_foldCase,
        dropWhile_foldCase isDigit_toLower, tail?_foldCase]
    · have noPoint : c.toLower ≠ '.' := mt (toLower_eq_iff (by decide)).1 point
      have tail : tail? (c.toLower :: foldCase rest) = tail? (c :: rest) := tail?_foldCase (c :: rest)
      simp [point, noPoint, tail]

end Decimal

theorem readFloat?_foldCase (s : List Char) : readFloat? (foldCase s) = readFloat? s := by
  unfold readFloat?
  rw [Decimal.sign_foldCase]
  have name (t : List Char) : (foldCase t).map Char.toLower = t.map Char.toLower := by
    rw [foldCase, List.map_map]
    exact List.map_congr_left fun c _ => Char.toLower_toLower_eq_toLower c
  simp only [name, Decimal.places?_foldCase]

namespace Decimal

/-! The characters of such a text. -/

/-- The characters that the text of a float may hold. -/
def IsNumberChar (c : Char) : Prop := c.isAlpha = true ∨ c.isDigit = true ∨ c = '.' ∨ c = '+' ∨ c = '-'

instance (c : Char) : Decidable (IsNumberChar c) := inferInstanceAs (Decidable (_ ∨ _))

theorem IsNumberChar.isBlank_eq_false {c : Char} (h : IsNumberChar c) : isBlank c = false := by
  rcases h with letter | digit | rfl | rfl | rfl
  · exact isBlank_eq_false_of_isAlpha letter
  · exact isBlank_eq_false_of_isDigit digit
  · decide
  · decide
  · decide

theorem IsNumberChar.ne_quote {c : Char} (h : IsNumberChar c) : c ≠ '"' := by
  rintro rfl
  exact absurd h (by decide)

theorem isNumberChar_of_sign {s : List Char} (rest : ∀ c ∈ (sign s).2, IsNumberChar c) :
    ∀ c ∈ s, IsNumberChar c := by
  unfold sign at rest
  split at rest
  next behind => exact List.forall_mem_cons.2 ⟨by simp [IsNumberChar], rest⟩
  next behind => exact List.forall_mem_cons.2 ⟨by simp [IsNumberChar], rest⟩
  next => exact rest

theorem isNumberChar_of_power? {s : List Char} {n : Int} (h : power? s = some n) :
    ∀ c ∈ s, IsNumberChar c := by
  apply isNumberChar_of_sign
  unfold power? at h
  simp only at h
  split at h
  next => cases h
  next proper =>
    have digits : (sign s).2.all Char.isDigit = true := by simp_all
    intro c member
    exact .inr (.inl (List.all_eq_true.1 digits c member))

theorem isNumberChar_of_tail? {s : List Char} {n : Int} (h : tail? s = some n) :
    ∀ c ∈ s, IsNumberChar c := by
  unfold tail? at h
  split at h
  next => simp
  next c rest =>
    split at h
    next mark =>
      refine List.forall_mem_cons.2 ⟨.inl ?_, isNumberChar_of_power? h⟩
      rcases mark with rfl | rfl <;> rfl
    next => cases h

/-- A run of digits and what comes behind it make up the text. -/
theorem isNumberChar_of_dropWhile {s : List Char}
    (behind : ∀ c ∈ s.dropWhile Char.isDigit, IsNumberChar c) : ∀ c ∈ s, IsNumberChar c := by
  intro c member
  rw [← List.takeWhile_append_dropWhile (p := Char.isDigit) (l := s)] at member
  rcases List.mem_append.1 member with digit | rest
  · exact .inr (.inl (List.mem_takeWhile_imp digit))
  · exact behind c rest

theorem isNumberChar_of_places? {negative : Bool} {s : List Char} {d : Decimal}
    (h : places? negative s = some d) : ∀ c ∈ s, IsNumberChar c := by
  apply isNumberChar_of_dropWhile
  unfold places? at h
  simp only at h
  split at h
  next rest found =>
    rw [found]
    split at h
    next => cases h
    next =>
      obtain ⟨power, tail, -⟩ := Option.map_eq_some_iff.1 h
      have fraction := isNumberChar_of_dropWhile (isNumberChar_of_tail? tail)
      exact List.forall_mem_cons.2 ⟨by simp [IsNumberChar], fraction⟩
  next =>
    split at h
    next => cases h
    next =>
      obtain ⟨power, tail, -⟩ := Option.map_eq_some_iff.1 h
      exact isNumberChar_of_tail? tail

theorem isNumberChar_of_name {s : List Char} {name : String}
    (h : String.ofList (s.map Char.toLower) = name) (letters : name.toList.all Char.isAlpha = true) :
    ∀ c ∈ s, IsNumberChar c := by
  intro c member
  rw [← h, String.toList_ofList] at letters
  have alpha := List.all_eq_true.1 letters c.toLower (List.mem_map_of_mem member)
  rw [Char.isAlpha_toLower_eq_isAlpha] at alpha
  exact .inl alpha

end Decimal

open Decimal

theorem isNumberChar_of_readFloat? {s : List Char} {x : Float} (h : readFloat? s = some x) :
    ∀ c ∈ s, IsNumberChar c := by
  apply isNumberChar_of_sign
  unfold readFloat? at h
  simp only at h
  split at h
  next infinite =>
    rcases infinite with short | long
    · exact isNumberChar_of_name short (by decide)
    · exact isNumberChar_of_name long (by decide)
  next =>
    split at h
    next nan => exact isNumberChar_of_name nan (by decide)
    next =>
      obtain ⟨d, places, -⟩ := Option.map_eq_some_iff.1 h
      exact isNumberChar_of_places? places

/-- A number needs a character at least. -/
theorem ne_nil_of_readFloat? {s : List Char} {x : Float} (h : readFloat? s = some x) : s ≠ [] := by
  rintro rfl
  cases h

end Outlay
