import Outlay.Calendar.Day

/-!
# Months as ranges of days

A day lies in the month of another one if it is not before the first nor after the last day of that
month.
-/

namespace Outlay.Calendar

theorem daysIn_pos (year : Int) (month : Nat) : 1 ≤ daysIn year month := by
  unfold daysIn
  repeat' split
  all_goals decide

namespace Day

def firstOfMonth (d : Day) : Day where
  year := d.year
  month := d.month
  day := 1
  isDate := ⟨d.isDate.1, d.isDate.2.1, d.isDate.2.2.1, Nat.le_refl 1, daysIn_pos d.year d.month⟩

def lastOfMonth (d : Day) : Day where
  year := d.year
  month := d.month
  day := daysIn d.year d.month
  isDate := ⟨d.isDate.1, d.isDate.2.1, d.isDate.2.2.1, daysIn_pos d.year d.month, Nat.le_refl _⟩

theorem le_iff {a b : Day} : a ≤ b ↔ a.rank ≤ b.rank := Iff.rfl

theorem sameMonth_iff {d m : Day} : d.sameMonth m = true ↔ d.year = m.year ∧ d.month = m.month := by
  simp [sameMonth]

theorem sameMonth_iff_between {d m : Day} :
    d.sameMonth m = true ↔ m.firstOfMonth ≤ d ∧ d ≤ m.lastOfMonth := by
  obtain ⟨year, month, day, isYear, low, high, first, last⟩ := d
  have short := daysIn_le year month
  obtain ⟨-, low', high', -⟩ := m.isDate
  have short' := daysIn_le m.year m.month
  rw [sameMonth_iff, le_iff, le_iff]
  simp only [rank, firstOfMonth, lastOfMonth]
  constructor
  · rintro ⟨rfl, rfl⟩
    omega
  · rintro ⟨after, before⟩
    omega

example : (Option.map lastOfMonth (ofDate? 2024 2 3)).map (·.day) = some 29 := by decide +kernel

end Day

end Outlay.Calendar
