import Outlay.Proofs.Calendar.Month

/-!
# The day after

A day is followed by the next one of its month, by the first of the next month or by the first of the
next year. No day lies between (`le_iff_lt_next`), and only the last of all has none after it.
-/

namespace Outlay.Calendar.Day

def greatest : Day := ⟨262142, 12, 31, by decide⟩

theorem le_greatest (d : Day) : d ≤ greatest := by
  obtain ⟨isYear, -, high, -, last⟩ := d.isDate
  have short := daysIn_le d.year d.month
  have most := isYear.2
  rw [le_iff]
  simp only [rank, greatest]
  omega

def next? (d : Day) : Option Day :=
  if d.day < daysIn d.year d.month then ofDate? d.year d.month (d.day + 1)
  else if d.month < 12 then ofDate? d.year (d.month + 1) 1
  else ofDate? (d.year + 1) 1 1

theorem ofDate?_of_isDate {year : Int} {month day : Nat} (h : IsDate year month day) :
    ofDate? year month day = some ⟨year, month, day, h⟩ := dif_pos h

theorem ofDate?_eq_some_iff {year : Int} {month day : Nat} {d : Day} :
    ofDate? year month day = some d ↔ d.year = year ∧ d.month = month ∧ d.day = day := by
  constructor
  · unfold ofDate?
    split
    · rintro ⟨⟩
      exact ⟨rfl, rfl, rfl⟩
    · rintro ⟨⟩
  · rintro ⟨rfl, rfl, rfl⟩
    exact ofDate?_self d

/-- What is not after a day is before the day after it. -/
theorem le_iff_lt_next {b n : Day} (h : b.next? = some n) (d : Day) : d ≤ b ↔ d < n := by
  obtain ⟨-, low, high, first, last⟩ := d.isDate
  obtain ⟨-, low', high', first', last'⟩ := b.isDate
  have short := daysIn_le d.year d.month
  have short' := daysIn_le b.year b.month
  -- Days of one month have one length of it.
  have sameLength : d.year = b.year → d.month = b.month → daysIn d.year d.month = daysIn b.year b.month :=
    fun year month => by rw [year, month]
  change d.rank ≤ b.rank ↔ d.rank < n.rank
  unfold next? at h
  simp only [rank]
  repeat' split at h
  all_goals
    obtain ⟨year, month, day⟩ := ofDate?_eq_some_iff.1 h
    rw [year, month, day]
    omega

theorem exists_next? {b : Day} (h : b < greatest) : ∃ n, b.next? = some n := by
  obtain ⟨isYear, low, high, first, last⟩ := b.isDate
  have less : b.rank < greatest.rank := h
  unfold next?
  split
  next inMonth => exact ⟨_, ofDate?_of_isDate ⟨isYear, low, high, Nat.le_add_left 1 _, inMonth⟩⟩
  next =>
    split
    next inYear =>
      exact ⟨_, ofDate?_of_isDate
        ⟨isYear, Nat.le_add_left 1 _, inYear, Nat.le_refl 1, daysIn_pos _ _⟩⟩
    next atEnd =>
      have month : b.month = 12 := by omega
      have length : daysIn b.year b.month = 31 := by rw [month]; rfl
      have year : b.year < 262142 := by
        simp only [rank, greatest] at less
        omega
      exact ⟨_, ofDate?_of_isDate
        ⟨⟨by have := isYear.1; omega, year⟩, by decide, by decide, Nat.le_refl 1, daysIn_pos _ _⟩⟩

example : ((ofDate? 2024 2 28).bind next?).map (·.text) = some "2024-02-29".toList := by decide +kernel
example : ((ofDate? (-1) 12 31).bind next?).map (·.text) = some "0000-01-01".toList := by decide +kernel

end Outlay.Calendar.Day
