import Outlay.Calendar.Day

/-!
Points in time without a zone: a day and a time of day down to the nanosecond. A leap second is
second 60 of its minute.
-/

namespace Outlay.Calendar

structure Time where
  hour : Nat
  minute : Nat
  second : Nat
  nano : Nat
  hour_lt : hour < 24
  minute_lt : minute < 60
  second_le : second ≤ 60
  nano_lt : nano < 1000000000
  deriving DecidableEq

namespace Time

def midnight : Time where
  hour := 0
  minute := 0
  second := 0
  nano := 0
  hour_lt := by decide
  minute_lt := by decide
  second_le := by decide
  nano_lt := by decide

def of? (hour minute second nano : Nat) : Option Time :=
  if h : hour < 24 ∧ minute < 60 ∧ second ≤ 60 ∧ nano < 1000000000 then
    some ⟨hour, minute, second, nano, h.1, h.2.1, h.2.2.1, h.2.2.2⟩
  else none

/-- Hours and minutes, as in `09:30`. -/
def minuteText (t : Time) : List Char := Day.digits 2 t.hour ++ ':' :: Day.digits 2 t.minute

/-- No fraction for a whole second, else three, six or nine digits, the fewest that are exact. -/
def fractionText (nano : Nat) : List Char :=
  if nano = 0 then []
  else if nano % 1000000 = 0 then '.' :: Day.digits 3 (nano / 1000000)
  else if nano % 1000 = 0 then '.' :: Day.digits 6 (nano / 1000)
  else '.' :: Day.digits 9 nano

def text (t : Time) : List Char :=
  t.minuteText ++ ':' :: Day.digits 2 t.second ++ fractionText t.nano

end Time

structure Timestamp where
  day : Day
  time : Time
  deriving DecidableEq

/-- The day and the time with a `T` between them. -/
def Timestamp.text (t : Timestamp) : List Char := t.day.text ++ 'T' :: t.time.text

/-- The day and the minute with a blank between them. -/
def Timestamp.minuteText (t : Timestamp) : List Char := t.day.text ++ ' ' :: t.time.minuteText

end Outlay.Calendar
