import Mathlib.Data.List.Forall2
import Outlay.Text.Lowercase
import Outlay.Text.Occurs

/-!
# Capital sigmas and the text around them

The capital sigma is the only letter whose small form hangs on the text around it: at the end of a word it
is another one. So a text has its own lowercase form inside that of a longer text if its capital sigmas end
words there exactly where they do in the text alone.
-/

namespace Outlay.Text

/-- A capital sigma between the two texts ends a word. -/
def endsWord (before after : List Char) : Bool := startsCased before.reverse && !startsCased after

theorem startsCased_cons (c : Char) (s : List Char) :
    startsCased (c :: s) = if isCaseIgnorable c then startsCased s else isCased c := by
  unfold startsCased
  cases h : isCaseIgnorable c <;> simp [h]

theorem startsCased_append (s t : List Char) :
    startsCased (s ++ t) = if s.all isCaseIgnorable then startsCased t else startsCased s := by
  induction s with
  | nil => rfl
  | cons c s ih =>
    rw [List.cons_append, startsCased_cons, startsCased_cons, ih, List.all_cons]
    cases isCaseIgnorable c <;> simp

theorem startsCased_of_all {s : List Char} (passed : s.all isCaseIgnorable = true) :
    startsCased s = false := by
  have whole := startsCased_append s []
  rw [List.append_nil, passed, if_pos rfl] at whole
  exact whole

/-! The lowercase form of a part. -/

/-- The small form of a character between two texts. -/
def formBetween (before : List Char) (c : Char) (after : List Char) : List Char :=
  if c = 'Σ' then [if endsWord before after then 'ς' else 'σ'] else smallForm c

/-- The lowercase form of a text between two others. -/
def lowercaseBetween (before : List Char) : List Char → List Char → List Char
  | [], _ => []
  | c :: s, after => formBetween before c (s ++ after) ++ lowercaseBetween (before ++ [c]) s after

theorem lowercaseFrom_append (before s after : List Char) :
    lowercaseFrom (startsCased before.reverse) (s ++ after) =
      lowercaseBetween before s after ++ lowercaseFrom (startsCased (before ++ s).reverse) after := by
  induction s generalizing before with
  | nil =>
    rw [List.append_nil]
    rfl
  | cons c s ih =>
    have next : startsCased (before ++ [c]).reverse =
        if isCaseIgnorable c then startsCased before.reverse else isCased c := by
      rw [List.reverse_append, List.reverse_singleton, List.singleton_append, startsCased_cons]
    have rest := ih (before ++ [c])
    rw [next, List.append_assoc, List.singleton_append] at rest
    rw [List.cons_append, lowercaseFrom, lowercaseBetween, List.append_assoc, ← rest]
    rfl

theorem lowercase_eq_lowercaseBetween (s : List Char) : lowercase s = lowercaseBetween [] s [] := by
  have whole := lowercaseFrom_append [] s []
  rw [List.append_nil, lowercaseFrom, List.append_nil] at whole
  exact whole

theorem lowercase_append_append (front s back : List Char) :
    lowercase (front ++ s ++ back) =
      lowercaseBetween [] front (s ++ back) ++ lowercaseBetween front s back ++
        lowercaseBetween (front ++ s) back [] := by
  have first := lowercaseFrom_append [] front (s ++ back)
  have second := lowercaseFrom_append front s back
  have third := lowercaseFrom_append (front ++ s) back []
  rw [List.append_nil, lowercaseFrom, List.append_nil] at third
  rw [List.nil_append, second, third] at first
  rw [List.append_assoc, List.append_assoc, ← first]
  rfl

/-- Each capital sigma of the text ends a word between the two others exactly if it does in the text
alone. -/
def SigmasAlike (front s back : List Char) : Prop :=
  ∀ before after, s = before ++ 'Σ' :: after →
    endsWord (front ++ before) (after ++ back) = endsWord before after

theorem formBetween_of_ne {c : Char} (h : c ≠ 'Σ') (before after : List Char) :
    formBetween before c after = smallForm c := if_neg h

/-- Two lowercase forms of a text differ at capital sigmas at most. -/
theorem lowercaseBetween_eq_iff {before before' s after after' : List Char} :
    lowercaseBetween before s after = lowercaseBetween before' s after' ↔
      ∀ inside rest, s = inside ++ 'Σ' :: rest →
        endsWord (before ++ inside) (rest ++ after) = endsWord (before' ++ inside) (rest ++ after') := by
  induction s generalizing before before' with
  | nil => simp [lowercaseBetween]
  | cons c s ih =>
    have sameLength : (formBetween before c (s ++ after)).length =
        (formBetween before' c (s ++ after')).length := by
      unfold formBetween
      split <;> rfl
    have first : formBetween before c (s ++ after) = formBetween before' c (s ++ after') ↔
        (c = 'Σ' → endsWord before (s ++ after) = endsWord before' (s ++ after')) := by
      by_cases sigma : c = 'Σ'
      · cases h : endsWord before (s ++ after) <;> cases h' : endsWord before' (s ++ after') <;>
          simp [formBetween, sigma, h, h']
      · simp [formBetween, sigma]
    have parts : lowercaseBetween before (c :: s) after = lowercaseBetween before' (c :: s) after' ↔
        formBetween before c (s ++ after) = formBetween before' c (s ++ after') ∧
          lowercaseBetween (before ++ [c]) s after = lowercaseBetween (before' ++ [c]) s after' :=
      ⟨fun same => List.append_inj same sameLength, fun ⟨form, rest⟩ => congrArg₂ (· ++ ·) form rest⟩
    rw [parts, first, ih]
    constructor
    · rintro ⟨here, later⟩ inside rest split
      cases inside with
      | nil =>
        obtain ⟨sigma, rfl⟩ := List.cons.inj split
        simpa using here sigma
      | cons d inside =>
        obtain ⟨rfl, rfl⟩ := List.cons.inj split
        simpa using later inside rest rfl
    · intro alike
      constructor
      · rintro rfl
        simpa using alike [] s rfl
      · rintro inside rest rfl
        simpa using alike (c :: inside) rest rfl

theorem lowercaseBetween_eq_lowercase_iff {front s back : List Char} :
    lowercaseBetween front s back = lowercase s ↔ SigmasAlike front s back := by
  rw [lowercase_eq_lowercaseBetween, lowercaseBetween_eq_iff]
  simp only [List.nil_append, List.append_nil]
  rfl

theorem occursIn_lowercase {front s back : List Char} (alike : SigmasAlike front s back) :
    occursIn (lowercase s) (lowercase (front ++ s ++ back)) = true := by
  rw [lowercase_append_append, lowercaseBetween_eq_lowercase_iff.2 alike]
  exact occursIn_iff.2 ⟨_, _, rfl⟩

/-! Sigmas that no surroundings change. -/

/-- A cased letter follows the sigma, or what comes before it tells that no word ends there, or both sides
tell that one does. -/
def Settled (before after : List Char) : Prop :=
  startsCased after = true ∨
    before.all isCaseIgnorable = false ∧
      (startsCased before.reverse = false ∨ after.all isCaseIgnorable = false)

instance (before after : List Char) : Decidable (Settled before after) :=
  inferInstanceAs (Decidable (_ ∨ _))

theorem endsWord_append (front before after back : List Char) :
    endsWord (front ++ before) (after ++ back) =
      ((if before.all isCaseIgnorable then startsCased front.reverse else startsCased before.reverse) &&
        !(if after.all isCaseIgnorable then startsCased back else startsCased after)) := by
  rw [endsWord, List.reverse_append, startsCased_append, startsCased_append, List.all_reverse]

theorem endsWord_of_settled {before after : List Char} (settled : Settled before after)
    (front back : List Char) : endsWord (front ++ before) (after ++ back) = endsWord before after := by
  rw [endsWord_append, endsWord]
  rcases settled with cased | ⟨told, uncased | toldBehind⟩
  · cases passed : after.all isCaseIgnorable with
    | true => simp [startsCased_of_all passed] at cased
    | false => simp [cased]
  · simp [told, uncased]
  · simp [told, toldBehind]

/-- One letter before or behind is enough to change a sigma that is not settled. -/
theorem endsWord_ne_of_not_settled {before after : List Char} (unsettled : ¬Settled before after) :
    endsWord (['a'] ++ before) (after ++ []) ≠ endsWord before after ∨
      endsWord ([] ++ before) (after ++ ['a']) ≠ endsWord before after := by
  have cased : startsCased ['a'] = true := by decide +kernel
  have none : startsCased [] = false := rfl
  simp only [Settled, not_or, not_and, Bool.not_eq_true, Bool.not_eq_false] at unsettled
  obtain ⟨uncased, told⟩ := unsettled
  rw [endsWord_append, endsWord_append, endsWord, List.reverse_singleton, cased]
  cases passed : before.all isCaseIgnorable with
  | true =>
    have alone : startsCased before.reverse = false := startsCased_of_all (by rwa [List.all_reverse])
    left
    simp [alone, uncased, none]
  | false =>
    obtain ⟨ends, passedBehind⟩ := told passed
    right
    simp [ends, passedBehind, uncased]

theorem sigmasAlike_of_settled {s : List Char}
    (settled : ∀ before after, s = before ++ 'Σ' :: after → Settled before after)
    (front back : List Char) : SigmasAlike front s back :=
  fun before after split => endsWord_of_settled (settled before after split) front back

/-! One letter beside a text does not make up for a sigma that it changes. -/

section Shift

variable {letter : Char} {u w : List Char}
  (alike : List.Forall₂ (fun c d => c = letter ↔ d = letter) u w)
include alike

/-- Texts that have a letter at the same places are equal if one is the other, moved on behind that
letter. -/
theorem eq_of_cons_eq_append {z : Char} (moved : letter :: u = w ++ [z]) : u = w := by
  induction alike with
  | nil => rfl
  | @cons c d u w same _ ih =>
    obtain ⟨rfl, rest⟩ := List.cons.inj moved
    obtain rfl : c = letter := same.2 rfl
    rw [ih rest]

theorem eq_of_occursIn_cons (occurs : occursIn w (letter :: u) = true) : u = w := by
  obtain ⟨front, back, whole⟩ := occursIn_iff.1 occurs
  have lengths := congrArg List.length whole
  simp only [List.length_cons, List.length_append, alike.length_eq] at lengths
  cases front with
  | nil =>
    obtain ⟨z, rfl⟩ : ∃ z, back = [z] := List.length_eq_one_iff.1 (by simp at lengths; omega)
    exact eq_of_cons_eq_append alike whole
  | cons c front =>
    obtain rfl : front = [] := List.length_eq_zero_iff.1 (by simp at lengths; omega)
    obtain rfl : back = [] := List.length_eq_zero_iff.1 (by simp at lengths; omega)
    simpa using (List.cons.inj whole).2

theorem eq_of_occursIn_append (occurs : occursIn w (u ++ [letter]) = true) : u = w := by
  obtain ⟨front, back, whole⟩ := occursIn_iff.1 occurs
  -- Read backwards, the letter stands in front.
  have turned : letter :: u.reverse = back.reverse ++ w.reverse ++ front.reverse := by
    simpa using congrArg List.reverse whole
  have same := eq_of_occursIn_cons (List.forall₂_reverse_iff.2 alike) (occursIn_iff.2 ⟨_, _, turned⟩)
  exact List.reverse_injective same

end Shift

theorem forall₂_lowercaseBetween (before before' s after after' : List Char) :
    List.Forall₂ (fun c d => c = 'a' ↔ d = 'a') (lowercaseBetween before s after)
      (lowercaseBetween before' s after') := by
  induction s generalizing before before' with
  | nil => exact .nil
  | cons c s ih =>
    refine List.rel_append ?_ (ih _ _)
    unfold formBetween
    split
    · refine .cons ?_ .nil
      split <;> split <;> decide
    · exact List.forall₂_same.2 fun _ _ => Iff.rfl

theorem not_occursIn_lowercase_cons {s : List Char} (unlike : ¬SigmasAlike ['a'] s []) :
    occursIn (lowercase s) (lowercase (['a'] ++ s ++ [])) = false := by
  rw [← lowercaseBetween_eq_lowercase_iff] at unlike
  have letter : lowercaseBetween [] ['a'] (s ++ []) = ['a'] := by
    rw [lowercaseBetween, lowercaseBetween, formBetween_of_ne (by decide), List.append_nil]
    decide +kernel
  rw [lowercase_append_append, letter, lowercaseBetween, List.append_nil, ← Bool.not_eq_true]
  intro occurs
  refine unlike (eq_of_occursIn_cons ?_ occurs)
  rw [lowercase_eq_lowercaseBetween]
  exact forall₂_lowercaseBetween _ _ _ _ _

theorem not_occursIn_lowercase_append {s : List Char} (unlike : ¬SigmasAlike [] s ['a']) :
    occursIn (lowercase s) (lowercase ([] ++ s ++ ['a'])) = false := by
  rw [← lowercaseBetween_eq_lowercase_iff] at unlike
  have letter : lowercaseBetween ([] ++ s) ['a'] [] = ['a'] := by
    rw [lowercaseBetween, lowercaseBetween, formBetween_of_ne (by decide), List.append_nil]
    decide +kernel
  rw [lowercase_append_append, letter, lowercaseBetween, List.nil_append, ← Bool.not_eq_true]
  intro occurs
  refine unlike (eq_of_occursIn_append ?_ occurs)
  rw [lowercase_eq_lowercaseBetween]
  exact forall₂_lowercaseBetween _ _ _ _ _

/-- Where a sigma is not settled, some longer text does not have the lowercase form in its own. -/
theorem exists_not_occursIn_lowercase {before after : List Char} (unsettled : ¬Settled before after) :
    ∃ front back, occursIn (lowercase (before ++ 'Σ' :: after))
      (lowercase (front ++ (before ++ 'Σ' :: after) ++ back)) = false := by
  rcases endsWord_ne_of_not_settled unsettled with changed | changed
  · exact ⟨['a'], [], not_occursIn_lowercase_cons fun alike => changed (alike before after rfl)⟩
  · exact ⟨[], ['a'], not_occursIn_lowercase_append fun alike => changed (alike before after rfl)⟩

example : Settled "ΟΔΟ".toList " 5".toList ∧ ¬Settled "ΟΔΟ".toList [] := by decide +kernel

end Outlay.Text
