import Outlay.Proofs.Calendar.Next
import Outlay.Prefilter

/-!
# Splitting a range of days

Two prefilters whose ranges meet, the second from the day after the last one of the first on, share out
what a prefilter over the whole range keeps: each record goes to one of them, whatever its time of day.
-/

namespace Outlay

open Calendar

/-- A list that is made up of two others, each of them in its order. -/
inductive IsMerge {α : Type} : List α → List α → List α → Prop
  | nil : IsMerge [] [] []
  | left {front back whole : List α} (a : α) :
      IsMerge front back whole → IsMerge (a :: front) back (a :: whole)
  | right {front back whole : List α} (a : α) :
      IsMerge front back whole → IsMerge front (a :: back) (a :: whole)

theorem isMerge_filter {α : Type} {p q r : α → Bool}
    (either : ∀ a, p a = true ↔ q a = true ∨ r a = true) (once : ∀ a, ¬(q a = true ∧ r a = true))
    (l : List α) : IsMerge (l.filter q) (l.filter r) (l.filter p) := by
  induction l with
  | nil => exact .nil
  | cons a l ih =>
    cases first : q a with
    | true =>
      have whole : p a = true := (either a).2 (.inl first)
      have notSecond : ¬r a = true := fun second => once a ⟨first, second⟩
      rw [List.filter_cons_of_pos first, List.filter_cons_of_neg notSecond,
        List.filter_cons_of_pos whole]
      exact .left a ih
    | false =>
      have notFirst : ¬q a = true := by rw [first]; decide
      rw [List.filter_cons_of_neg notFirst]
      cases second : r a with
      | true =>
        have whole : p a = true := (either a).2 (.inr second)
        rw [List.filter_cons_of_pos second, List.filter_cons_of_pos whole]
        exact .right a ih
      | false =>
        have notSecond : ¬r a = true := by rw [second]; decide
        have notWhole : ¬p a = true := fun whole => ((either a).1 whole).elim notFirst notSecond
        rw [List.filter_cons_of_neg notSecond, List.filter_cons_of_neg notWhole]
        exact ih

namespace Prefilter

/-- The part of a filter up to the given day. -/
def upTo (f : Prefilter) (day : Day) : Prefilter := { f with last := some day }

/-- The part of a filter from the given day on. -/
def since (f : Prefilter) (day : Day) : Prefilter := { f with first := some day }

/-- Two filters that share out what a third one keeps. -/
structure Splits (whole front back : Prefilter) : Prop where
  either : ∀ t, whole.accepts t = true ↔ front.accepts t = true ∨ back.accepts t = true
  once : ∀ t, ¬(front.accepts t = true ∧ back.accepts t = true)
  merge : ∀ records, IsMerge (front.apply records) (back.apply records) (whole.apply records)

theorem accepts_upTo_iff {f : Prefilter} {day : Day} {t : Transaction} :
    (f.upTo day).accepts t = true ↔ (∀ first ∈ f.first, first ≤ t.day) ∧ t.day ≤ day ∧
      (∀ wanted ∈ f.category, wanted = anyCategory ∨ t.category = wanted) ∧
      ∀ least ∈ f.least, ¬t.amount.value < least := by
  simp [accepts_iff, upTo]

theorem accepts_since_iff {f : Prefilter} {day : Day} {t : Transaction} :
    (f.since day).accepts t = true ↔ day ≤ t.day ∧ (∀ last ∈ f.last, t.day ≤ last) ∧
      (∀ wanted ∈ f.category, wanted = anyCategory ∨ t.category = wanted) ∧
      ∀ least ∈ f.least, ¬t.amount.value < least := by
  simp [accepts_iff, since]

theorem lt_greatest_of_lt_getD {day : Day} {last : Option Day} (h : day < last.getD Day.greatest) :
    day < Day.greatest := by
  cases last with
  | none => exact h
  | some last => exact Int.lt_of_lt_of_le h (Day.le_greatest last)

/-- Whatever the filter demands besides, a day of its range splits it; the range may be open on either
side, as long as there is a day after the one at which it is split. -/
theorem splits_at_day (f : Prefilter) (day : Day) (begun : ∀ first ∈ f.first, first ≤ day)
    (unfinished : day < f.last.getD Day.greatest) :
    ∃ next, day.next? = some next ∧ f.Splits (f.upTo day) (f.since next) := by
  obtain ⟨next, isNext⟩ := Day.exists_next? (lt_greatest_of_lt_getD unfinished)
  have sides (d : Day) : d ≤ day ↔ ¬next ≤ d := (Day.le_iff_lt_next isNext d).trans Int.not_le.symm
  have inFront {t : Transaction} (early : t.day ≤ day) : ∀ last ∈ f.last, t.day ≤ last := by
    intro last member
    rw [Option.mem_def.1 member] at unfinished
    exact Int.le_of_lt (Int.lt_of_le_of_lt early unfinished)
  have behind {t : Transaction} (late : next ≤ t.day) : ∀ first ∈ f.first, first ≤ t.day := by
    intro first member
    have apart : ¬t.day ≤ day := fun early => (sides t.day).1 early late
    exact Int.le_trans (begun first member) (Int.le_of_lt (Int.not_le.1 apart))
  have either (t : Transaction) : f.accepts t = true ↔
      (f.upTo day).accepts t = true ∨ (f.since next).accepts t = true := by
    rw [accepts_iff, accepts_upTo_iff, accepts_since_iff]
    by_cases early : t.day ≤ day
    · have notLate := (sides t.day).1 early
      simp only [early, notLate, true_and, false_and, or_false]
      exact and_congr_right fun _ => and_iff_right (inFront early)
    · have late : next ≤ t.day := Decidable.not_not.1 fun notLate => early ((sides t.day).2 notLate)
      simp only [early, late, true_and, false_and, and_false, false_or]
      exact and_iff_right (behind late)
  have once (t : Transaction) : ¬((f.upTo day).accepts t = true ∧ (f.since next).accepts t = true) := by
    rw [accepts_upTo_iff, accepts_since_iff]
    rintro ⟨⟨-, early, -⟩, late, -⟩
    exact (sides t.day).1 early late
  exact ⟨next, isNext, either, once, fun records => isMerge_filter either once records⟩

/-- The last second of February, a leap second, belongs to the front, the midnight after it to the back. -/
theorem splits_at_day_leapDay :
    let first : Day := ⟨2024, 2, 1, by decide⟩
    let leapDay : Day := ⟨2024, 2, 29, by decide⟩
    let next : Day := ⟨2024, 3, 1, by decide⟩
    let lastSecond : Time := ⟨23, 59, 60, 999999999, by decide, by decide, by decide, by decide⟩
    let march : Transaction := ⟨1, "Bar", .ofFloat 12.5, "Dining", next, .midnight⟩
    let february : Transaction := ⟨2, "Cafe", .ofFloat 5.0, "Dining", leapDay, lastSecond⟩
    let small : Transaction := ⟨3, "Tea", .ofFloat 1.5, "Dining", leapDay, lastSecond⟩
    let f : Prefilter := { first := some first, category := some "Dining", least := some 5.0 }
    (∀ d ∈ f.first, d ≤ leapDay) ∧ leapDay < f.last.getD Day.greatest ∧
      f.apply [march, february, small] = [march, february] ∧
      (f.upTo leapDay).apply [march, february, small] = [february] ∧
      (f.since next).apply [march, february, small] = [march] ∧ f.Splits (f.upTo leapDay) (f.since next) := by
  intro first leapDay next lastSecond march february small f
  have begun : ∀ d ∈ f.first, d ≤ leapDay := by decide
  have unfinished : leapDay < f.last.getD Day.greatest := by decide
  refine ⟨begun, unfinished, by decide +kernel, by decide +kernel, by decide +kernel, ?_⟩
  obtain ⟨after, isNext, splits⟩ := splits_at_day f leapDay begun unfinished
  obtain rfl : after = next := by
    have known : leapDay.next? = some next := by decide
    rw [known] at isNext
    exact (Option.some.inj isNext).symm
  exact splits

end Prefilter

end Outlay
