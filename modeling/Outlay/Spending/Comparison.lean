import Outlay.Prefilter
import Outlay.Spending.Total

/-!
The spending of one range of days against that of another.
-/

namespace Outlay.Spending

open Calendar

/-- Both days belong to the period. -/
structure Period where
  first : Day
  last : Day
  deriving DecidableEq

structure PeriodTotal where
  period : Period
  total : Float
  deriving DecidableEq

inductive Verdict where
  | higher
  | lower
  | same
  deriving DecidableEq, Repr

def Verdict.name : Verdict → String
  | .higher => "Higher"
  | .lower => "Lower"
  | .same => "Same"

def Verdict.all : List Verdict := [.higher, .lower, .same]

/-- What a difference says; what is no number says that nothing changed. -/
def Verdict.of (difference : Float) : Verdict :=
  if difference > 0.0 then .higher else if difference < 0.0 then .lower else .same

structure Comparison where
  current : PeriodTotal
  previous : PeriodTotal
  difference : Float
  /-- In percent of the previous total, or zero if that is not positive. -/
  percentChange : Float
  verdict : Verdict
  deriving DecidableEq

def Period.filter (p : Period) (category : Option String) : Prefilter where
  first := some p.first
  last := some p.last
  category := category

def Period.spending (p : Period) (category : Option String) (records : List Transaction) :
    PeriodTotal where
  period := p
  total := total ((p.filter category).apply records)

def percentChange (difference previous : Float) : Float :=
  if previous > 0.0 then toTenths (difference / previous * 100.0) else 0.0

def Comparison.of (current previous : PeriodTotal) : Comparison :=
  let difference := current.total - previous.total
  { current, previous, difference
    percentChange := Spending.percentChange difference previous.total
    verdict := Verdict.of difference }

/-- Compares two periods, if wanted in one category alone. -/
def compare (current previous : Period) (category : Option String) (records : List Transaction) :
    Comparison :=
  Comparison.of (current.spending category records) (previous.spending category records)

end Outlay.Spending
