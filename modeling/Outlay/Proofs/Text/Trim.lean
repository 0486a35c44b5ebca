import Mathlib.Data.List.DropRight
import Outlay.Text.Blank

/-!
# Trimmed texts

A text without blanks at its ends is its own trim, and every trim is such a text.
-/

namespace Outlay.Text

theorem dropWhile_eq_self {s : List Char} (h : ∀ c ∈ s.head?, isBlank c = false) :
    s.dropWhile isBlank = s := by
  cases s with
  | nil => rfl
  | cons c s => exact List.dropWhile_cons_of_neg (Bool.not_eq_true _ ▸ h c rfl)

theorem head?_dropWhile (s : List Char) : ∀ c ∈ (s.dropWhile isBlank).head?, isBlank c = false := by
  intro c first
  have := List.head?_dropWhile_not isBlank s
  rw [first] at this
  simpa using this

/-- Neither end is a blank. -/
def IsTrimmed (s : List Char) : Prop :=
  (∀ c ∈ s.head?, isBlank c = false) ∧ ∀ c ∈ s.getLast?, isBlank c = false

theorem IsTrimmed.trim_eq {s : List Char} (h : IsTrimmed s) : trim s = s := by
  have last : ∀ c ∈ s.reverse.head?, isBlank c = false := by simpa using h.2
  rw [trim, dropWhile_eq_self h.1, dropWhile_eq_self last, List.reverse_reverse]

theorem isTrimmed_of_forall {s : List Char} (h : ∀ c ∈ s, isBlank c = false) : IsTrimmed s :=
  ⟨fun c first => h c (List.mem_of_head? first), fun c last => h c (List.mem_of_getLast? last)⟩

theorem isTrimmed_trim (s : List Char) : IsTrimmed (trim s) := by
  constructor
  · -- What is dropped at the end leaves a prefix, which starts as the text did.
    intro c first
    obtain ⟨blanks, whole⟩ := List.reverse_prefix.2
      (List.dropWhile_suffix isBlank (l := (s.dropWhile isBlank).reverse))
    rw [List.reverse_reverse] at whole
    apply head?_dropWhile s c
    rw [← whole]
    change (trim s ++ blanks).head? = some c
    rw [List.head?_append, first, Option.some_or]
  · intro c last
    rw [trim, List.getLast?_reverse] at last
    exact head?_dropWhile _ c last

@[simp] theorem trim_trim (s : List Char) : trim (trim s) = trim s := (isTrimmed_trim s).trim_eq

@[simp] theorem trimmed_trimmed (s : String) : trimmed (trimmed s) = trimmed s := by
  simp [trimmed]

theorem trim_append_left {blanks : List Char} (blank : ∀ c ∈ blanks, isBlank c = true) (s : List Char) :
    trim (blanks ++ s) = trim s := by
  rw [trim, List.dropWhile_append_of_pos blank, trim]

theorem trim_append_right {blanks : List Char} (blank : ∀ c ∈ blanks, isBlank c = true) (s : List Char) :
    trim (s ++ blanks) = trim s := by
  have behind : ∀ c ∈ blanks.reverse, isBlank c = true := fun c member => blank c (List.mem_reverse.1 member)
  have none : (blanks ++ []).dropWhile isBlank = [] := List.dropWhile_append_of_pos blank
  rw [List.append_nil] at none
  rw [trim, List.dropWhile_append]
  split
  next empty => rw [trim, List.isEmpty_iff.1 empty, none]
  next => rw [List.reverse_append, List.dropWhile_append_of_pos behind, trim]

theorem mem_dropWhile_isBlank {s : List Char} {c : Char} (member : c ∈ s) (noBlank : isBlank c = false) :
    c ∈ s.dropWhile isBlank := by
  rw [← List.takeWhile_append_dropWhile (p := isBlank) (l := s)] at member
  refine (List.mem_append.1 member).resolve_left fun dropped => ?_
  rw [List.mem_takeWhile_imp dropped] at noBlank
  cases noBlank

theorem mem_trim {s : List Char} {c : Char} (member : c ∈ s) (noBlank : isBlank c = false) :
    c ∈ trim s := by
  have kept := mem_dropWhile_isBlank member noBlank
  exact List.mem_reverse.2 (mem_dropWhile_isBlank (List.mem_reverse.2 kept) noBlank)

theorem dropWhile_isBlank_append {c : Char} (noBlank : isBlank c = false) (front rest : List Char) :
    (front ++ c :: rest).dropWhile isBlank = front.dropWhile isBlank ++ c :: rest := by
  rw [List.dropWhile_append, List.dropWhile_cons_of_neg (by simp [noBlank])]
  split
  next empty => rw [List.isEmpty_iff.1 empty, List.nil_append]
  next => rfl

theorem rdropWhile_isBlank_append {run : List Char} (noBlank : ∀ c ∈ run.getLast?, isBlank c = false)
    (rest : List Char) : (run ++ rest).rdropWhile isBlank = run ++ rest.rdropWhile isBlank := by
  rcases List.eq_nil_or_concat run with rfl | ⟨front, c, rfl⟩
  · rfl
  · have last := noBlank c (by simp)
    simp only [List.rdropWhile, List.concat_eq_append, List.append_assoc, List.singleton_append,
      List.reverse_append, List.reverse_cons]
    rw [dropWhile_isBlank_append last]
    simp

/-- From a character that is no blank to another, nothing is trimmed. -/
theorem trim_append {c : Char} (noBlank : isBlank c = false) {run : List Char}
    (last : ∀ d ∈ (c :: run).getLast?, isBlank d = false) (front back : List Char) :
    trim (front ++ c :: (run ++ back)) =
      front.dropWhile isBlank ++ c :: (run ++ back.rdropWhile isBlank) := by
  have ends : ∀ d ∈ (front.dropWhile isBlank ++ c :: run).getLast?, isBlank d = false := by
    simpa using last
  change ((front ++ c :: (run ++ back)).dropWhile isBlank).rdropWhile isBlank = _
  have regroup (x : List Char) : front.dropWhile isBlank ++ c :: (run ++ x) =
      (front.dropWhile isBlank ++ c :: run) ++ x := by simp
  rw [dropWhile_isBlank_append noBlank, regroup, rdropWhile_isBlank_append ends, regroup]
theorem isBlank_eq_false_of_isDigit {c : Char} (h : c.isDigit = true) : isBlank c = false := by
  obtain ⟨low, high⟩ := Bool.and_eq_true_iff.1 h
  have least : 48 ≤ c.toNat := of_decide_eq_true low
  have greatest : c.toNat ≤ 57 := of_decide_eq_true high
  rw [← Bool.not_eq_true]
  intro blank
  simp only [isBlank, Bool.or_eq_true, Bool.and_eq_true, decide_eq_true_eq, beq_iff_eq] at blank
  omega

end Outlay.Text
