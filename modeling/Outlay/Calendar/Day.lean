/-!
Days of the Gregorian calendar, carried back before its introduction. Every value is a real day, so
no date can roll over into another one.
-/

namespace Outlay.Calendar

/-- Leap years, year 0 and those before it included. -/
def IsLeap (year : Int) : Prop := year % 4 = 0 ∧ (year % 100 ≠ 0 ∨ year % 400 = 0)

instance (year : Int) : Decidable (IsLeap year) := inferInstanceAs (Decidable (_ ∧ _))

def daysIn (year : Int) (month : Nat) : Nat :=
  match month with
  | 2 => if IsLeap year then 29 else 28
  | 4 | 6 | 9 | 11 => 30
  | _ => 31

/-- The years that a day may lie in. -/
def IsYear (year : Int) : Prop := -262143 ≤ year ∧ year ≤ 262142

def IsDate (year : Int) (month day : Nat) : Prop :=
  IsYear year ∧ 1 ≤ month ∧ month ≤ 12 ∧ 1 ≤ day ∧ day ≤ daysIn year month

instance (year : Int) (month day : Nat) : Decidable (IsDate year month day) :=
  inferInstanceAs (Decidable ((_ ∧ _) ∧ _))

theorem daysIn_le (year : Int) (month : Nat) : daysIn year month ≤ 31 := by
  unfold daysIn
  repeat' split
  all_goals decide

structure Day where
  year : Int
  month : Nat
  day : Nat
  isDate : IsDate year month day
  deriving DecidableEq

namespace Day

def ofDate? (year : Int) (month day : Nat) : Option Day :=
  if h : IsDate year month day then some ⟨year, month, day, h⟩ else none

@[simp] theorem ofDate?_self (d : Day) : ofDate? d.year d.month d.day = some d := by
  simp [ofDate?, d.isDate]

/-- A number that grows with the day. -/
def rank (d : Day) : Int := (d.year * 16 + d.month) * 32 + d.day

instance : LT Day := ⟨fun a b => a.rank < b.rank⟩

instance : LE Day := ⟨fun a b => a.rank ≤ b.rank⟩

instance (a b : Day) : Decidable (a < b) := inferInstanceAs (Decidable (a.rank < b.rank))

instance (a b : Day) : Decidable (a ≤ b) := inferInstanceAs (Decidable (a.rank ≤ b.rank))

def sameMonth (a b : Day) : Bool := a.year == b.year && a.month == b.month

/-- Decimal digits with zeros in front up to the given width. -/
def digits (width n : Nat) : List Char :=
  let s := Nat.toDigits 10 n
  List.replicate (width - s.length) '0' ++ s

/-- Four digits at least; years beyond those that four digits name carry a sign. -/
def yearText (year : Int) : List Char :=
  if 0 ≤ year ∧ year ≤ 9999 then digits 4 year.toNat
  else (if year < 0 then '-' else '+') :: digits 4 year.natAbs

/-- Year and month, as in `2026-02`. -/
def monthText (d : Day) : List Char := yearText d.year ++ '-' :: digits 2 d.month

/-- The day as in `2026-02-18`. -/
def text (d : Day) : List Char := d.monthText ++ '-' :: digits 2 d.day

end Day

end Outlay.Calendar
