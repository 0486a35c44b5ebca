import Outlay.Calendar.Pattern

/-!
Points in time as exports write them. The first layout that fits counts.
-/

namespace Outlay.Export

open Calendar

/-- A day, then a blank or a `T`, then the time with or without a fraction; or only the minute. -/
def momentPatterns : List (List Item) :=
  [ datePattern ++ .blanks :: secondPattern,
    datePattern ++ .blanks :: secondPattern ++ [.fraction],
    datePattern ++ .mark 'T' :: secondPattern,
    datePattern ++ .mark 'T' :: secondPattern ++ [.fraction],
    datePattern ++ .blanks :: minutePattern ]

def readPattern? (s : List Char) (pattern : List Item) : Option Timestamp :=
  (do (← readItems {} pattern s).toTimestamp : Except Misread Timestamp).toOption

/-- A bare day stands for its midnight. -/
def readMidnight? (s : List Char) : Option Timestamp :=
  (readDay s).toOption.map fun day => ⟨day, Time.midnight⟩

def readMomentChars? (s : List Char) : Option Timestamp :=
  (momentPatterns.findSome? (readPattern? s)).or (readMidnight? s)

def readMoment? (raw : String) : Option Timestamp := readMomentChars? (Text.trim raw.toList)

example : (readMoment? "2026-02-18 09:30").map (String.ofList ·.text) =
    some "2026-02-18T09:30:00" := by
  decide +kernel
example : readMoment? "18/02/2026" = none := by decide +kernel

end Outlay.Export
