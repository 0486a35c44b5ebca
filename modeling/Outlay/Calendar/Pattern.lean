import Outlay.Calendar.Timestamp
import Outlay.Text.Blank

/-!
Reading dates and times by a pattern. Numbers may have blanks before them and need not be padded;
only a year with a sign may have more than four digits. The fields that were read must make up a
real day and time.
-/

namespace Outlay.Calendar

inductive Misread where
  | tooShort
  | unexpected
  | outOfRange
  | tooLong
  deriving DecidableEq, Repr

def Misread.message : Misread → String
  | .tooShort => "premature end of input"
  | .unexpected => "input contains invalid characters"
  | .outOfRange => "input is out of range"
  | .tooLong => "trailing input"

inductive Item where
  | year
  | month
  | day
  | hour
  | minute
  | second
  /-- A point and digits, of which nine count; it may be missing. -/
  | fraction
  | blanks
  | mark (c : Char)
  deriving DecidableEq, Repr

structure Fields where
  year : Int := 0
  month : Nat := 0
  day : Nat := 0
  hour : Nat := 0
  minute : Nat := 0
  second : Nat := 0
  nano : Nat := 0
  deriving DecidableEq, Repr

namespace Fields

def toDay (f : Fields) : Except Misread Day :=
  match Day.ofDate? f.year f.month f.day with
  | some day => .ok day
  | none => .error .outOfRange

def toTimestamp (f : Fields) : Except Misread Timestamp := do
  let day ← f.toDay
  match Time.of? f.hour f.minute f.second f.nano with
  | some time => .ok ⟨day, time⟩
  | none => .error .outOfRange

end Fields

/-- The number that a non-empty run of digits writes, and what follows the run. -/
def takeNumber (digits s : List Char) : Except Misread (Nat × List Char) :=
  if digits.isEmpty then .error (if s.isEmpty then .tooShort else .unexpected)
  else .ok (Nat.ofDigitChars 10 digits 0, s.drop digits.length)

/-- At most `width` digits. -/
def number (width : Nat) (s : List Char) : Except Misread (Nat × List Char) :=
  takeNumber ((s.take width).takeWhile Char.isDigit) s

/-- Any count of digits. -/
def longNumber (s : List Char) : Except Misread (Nat × List Char) :=
  takeNumber (s.takeWhile Char.isDigit) s

/-- A year with a sign has 32 bits. -/
def yearNumber (s : List Char) : Except Misread (Int × List Char) := do
  match s with
  | '-' :: rest =>
    let (n, rest) ← longNumber rest
    if n ≤ 2147483648 then .ok (-(n : Int), rest) else .error .outOfRange
  | '+' :: rest =>
    let (n, rest) ← longNumber rest
    if n < 2147483648 then .ok (n, rest) else .error .outOfRange
  | _ =>
    let (n, rest) ← number 4 s
    .ok (n, rest)

/-- One or two digits, after any blanks, for a number between `least` and `most`. -/
def smallNumber (least most : Nat) (s : List Char) : Except Misread (Nat × List Char) := do
  let (n, rest) ← number 2 (s.dropWhile Text.isBlank)
  if least ≤ n ∧ n ≤ most then .ok (n, rest) else .error .outOfRange

/-- Nanoseconds from the digits after the point. -/
def nanos (s : List Char) : Except Misread (Nat × List Char) := do
  let digits := (s.take 9).takeWhile Char.isDigit
  let (n, rest) ← takeNumber digits s
  .ok (n * Nat.pow 10 (9 - digits.length), rest.dropWhile Char.isDigit)

def Item.read (item : Item) (f : Fields) (s : List Char) : Except Misread (Fields × List Char) :=
  match item with
  | .year => do
    let (n, rest) ← yearNumber (s.dropWhile Text.isBlank)
    .ok ({ f with year := n }, rest)
  | .month => do
    let (n, rest) ← smallNumber 1 12 s
    .ok ({ f with month := n }, rest)
  | .day => do
    let (n, rest) ← smallNumber 1 31 s
    .ok ({ f with day := n }, rest)
  | .hour => do
    let (n, rest) ← smallNumber 0 23 s
    .ok ({ f with hour := n }, rest)
  | .minute => do
    let (n, rest) ← smallNumber 0 59 s
    .ok ({ f with minute := n }, rest)
  | .second => do
    let (n, rest) ← smallNumber 0 60 s
    .ok ({ f with second := n }, rest)
  | .fraction =>
    match s with
    | '.' :: digits => do
      let (n, rest) ← nanos digits
      .ok ({ f with nano := n }, rest)
    | _ => .ok (f, s)
  | .blanks => .ok (f, s.dropWhile Text.isBlank)
  | .mark c =>
    match s with
    | [] => .error .tooShort
    | d :: rest => if d = c then .ok (f, rest) else .error .unexpected

/-- The pattern has to account for the whole text. -/
def readItems (f : Fields) : List Item → List Char → Except Misread Fields
  | [], s => if s.isEmpty then .ok f else .error .tooLong
  | item :: items, s => do
    let (f, rest) ← item.read f s
    readItems f items rest

/-- `2026-02-18` -/
def datePattern : List Item := [.year, .mark '-', .month, .mark '-', .day]

/-- `09:30` -/
def minutePattern : List Item := [.hour, .mark ':', .minute]

/-- `09:30:00` -/
def secondPattern : List Item := minutePattern ++ [.mark ':', .second]

def readDay (s : List Char) : Except Misread Day := do
  (← readItems {} datePattern s).toDay

/-- The date pattern with blanks allowed around its parts. -/
def spacedDate : List Item :=
  [.year, .blanks, .mark '-', .month, .blanks, .mark '-', .day, .blanks]

def readSpacedDay (s : List Char) : Except Misread Day := do
  (← readItems {} spacedDate s).toDay

def readSpacedTimestamp (s : List Char) : Except Misread Timestamp := do
  let time := [.mark 'T', .hour, .blanks, .mark ':', .minute, .blanks, .mark ':', .second,
    .fraction, .blanks]
  (← readItems {} (spacedDate ++ time) s).toTimestamp

example : (readDay "2026-2-3".toList).toOption.map (·.text) = some "2026-02-03".toList := by
  decide +kernel
example : (readDay "2026-02-30".toList).toOption = none := by decide +kernel
example : (readDay "2026-02".toList).toOption = none := by decide +kernel

end Outlay.Calendar
