import Outlay.Json.Reading
import Outlay.Spending.Budget
import Outlay.Spending.Comparison
import Outlay.Spending.Summary

/-!
Summaries, comparisons and budget lines as JSON.
-/

namespace Outlay.Spending

open Json Calendar

namespace Grouping

def toJson (g : Grouping) : Value := .string g.name

def ofJson (n : Node) : Read Grouping := n.variant (.ofNames all name)

end Grouping

namespace Row

def toJson (r : Row) : Value :=
  .object [("key", .string r.key), ("total", .ofFloat r.total.value), ("count", .ofInt r.count)]

structure Draft where
  key : Option String := none
  total : Option Float := none
  count : Option Nat := none

def Draft.put (d : Draft) (name : String) (n : Node) : Read Draft :=
  match name with
  | "key" => (once name d.key n.text).map ({ d with key := · })
  | "total" => (once name d.total n.float).map ({ d with total := · })
  | "count" => (once name d.count n.count).map ({ d with count := · })
  | _ => n.ignore.map fun _ => d

def ofItems (items : Items) : Read (Row × Items) := do
  let expected := "struct SpendingRow with 3 elements"
  let (key, items) ← items.take Node.text 0 expected
  let (total, items) ← items.take Node.float 1 expected
  let (count, items) ← items.take Node.count 2 expected
  return ({ key, total := .ofFloat total, count }, items)

def ofMembers (members : Members) : Read Row := do
  let d ← members.foldRead Draft.put {}
  return { key := ← need "key" d.key
           total := .ofFloat (← need "total" d.total)
           count := ← need "count" d.count }

def ofJson (n : Node) : Read Row := n.structure "struct SpendingRow" ofItems ofMembers

end Row

namespace PeriodTotal

/-- The two days stand beside the total. -/
def toJson (p : PeriodTotal) : Value :=
  .object [("start", .ofChars p.period.first.text), ("end", .ofChars p.period.last.text),
    ("total", .ofFloat p.total)]

/-- The total and the other members, the last of them first. -/
structure Draft where
  total : Option Float := none
  others : List (String × Value) := []

def Draft.put (room : Nat) (d : Draft) (name : String) (n : Node) : Read Draft :=
  if name = "total" then (once name d.total n.float).map ({ d with total := · })
  else (n.value room).map fun v => { d with others := (name, v) :: d.others }

structure PeriodDraft where
  first : Option Day := none
  last : Option Day := none

def PeriodDraft.put (d : PeriodDraft) (m : String × Value) : Read PeriodDraft :=
  match m.1 with
  | "start" => (once m.1 d.first m.2.kind.readDay).map ({ d with first := · })
  | "end" => (once m.1 d.last m.2.kind.readDay).map ({ d with last := · })
  | _ => .ok d

def periodOfMembers (members : List (String × Value)) : Read Period := do
  let d ← members.foldlM PeriodDraft.put {}
  return { first := ← need "start" d.first, last := ← need "end" d.last }

/-- The days are looked at after all of the object, inside which at most `room` levels may lie. -/
def ofJson (room : Nat) (n : Node) : Read PeriodTotal :=
  match n with
  | .object members => do
    let d ← members.foldRead (Draft.put room) {}
    let total ← need "total" d.total
    let period ← periodOfMembers d.others.reverse
    return { period, total }
  | _ => do mismatch (.invalidType (← n.kind) "struct PeriodTotal")

end PeriodTotal

namespace Verdict

def toJson (v : Verdict) : Value := .string v.name

def ofJson (n : Node) : Read Verdict := n.variant (.ofNames all name)

end Verdict

namespace Comparison

def toJson (c : Comparison) : Value :=
  .object [
    ("current", c.current.toJson),
    ("previous", c.previous.toJson),
    ("difference", .ofFloat c.difference),
    ("percent_change", .ofFloat c.percentChange),
    ("verdict", c.verdict.toJson)]

structure Draft where
  current : Option PeriodTotal := none
  previous : Option PeriodTotal := none
  difference : Option Float := none
  percentChange : Option Float := none
  verdict : Option Verdict := none

def readTotal (n : Node) : Read PeriodTotal := PeriodTotal.ofJson (depthLimit - 2) n

def Draft.put (d : Draft) (name : String) (n : Node) : Read Draft :=
  match name with
  | "current" => (once name d.current (readTotal n)).map ({ d with current := · })
  | "previous" => (once name d.previous (readTotal n)).map ({ d with previous := · })
  | "difference" => (once name d.difference n.float).map ({ d with difference := · })
  | "percent_change" => (once name d.percentChange n.float).map ({ d with percentChange := · })
  | "verdict" => (once name d.verdict (Verdict.ofJson n)).map ({ d with verdict := · })
  | _ => n.ignore.map fun _ => d

def ofItems (items : Items) : Read (Comparison × Items) := do
  let expected := "struct SpendingComparison with 5 elements"
  let (current, items) ← items.take readTotal 0 expected
  let (previous, items) ← items.take readTotal 1 expected
  let (difference, items) ← items.take Node.float 2 expected
  let (percentChange, items) ← items.take Node.float 3 expected
  let (verdict, items) ← items.take Verdict.ofJson 4 expected
  return ({ current, previous, difference, percentChange, verdict }, items)

def ofMembers (members : Members) : Read Comparison := do
  let d ← members.foldRead Draft.put {}
  return { current := ← need "current" d.current
           previous := ← need "previous" d.previous
           difference := ← need "difference" d.difference
           percentChange := ← need "percent_change" d.percentChange
           verdict := ← need "verdict" d.verdict }

def ofJson (n : Node) : Read Comparison :=
  n.structure "struct SpendingComparison" ofItems ofMembers

end Comparison

namespace BudgetStatus

def toJson (s : BudgetStatus) : Value := .string s.label

def ofJson (n : Node) : Read BudgetStatus := n.variant (.ofNames all label)

end BudgetStatus

namespace BudgetLine

def toJson (l : BudgetLine) : Value :=
  .object [
    ("category", .string l.category),
    ("budget", .ofFloat l.budget),
    ("spent", .ofFloat l.spent),
    ("remaining", .ofFloat l.remaining),
    ("percent_used", .ofFloat l.percentUsed),
    ("status", l.status.toJson)]

structure Draft where
  category : Option String := none
  budget : Option Float := none
  spent : Option Float := none
  remaining : Option Float := none
  percentUsed : Option Float := none
  status : Option BudgetStatus := none

def Draft.put (d : Draft) (name : String) (n : Node) : Read Draft :=
  match name with
  | "category" => (once name d.category n.text).map ({ d with category := · })
  | "budget" => (once name d.budget n.float).map ({ d with budget := · })
  | "spent" => (once name d.spent n.float).map ({ d with spent := · })
  | "remaining" => (once name d.remaining n.float).map ({ d with remaining := · })
  | "percent_used" => (once name d.percentUsed n.float).map ({ d with percentUsed := · })
  | "status" => (once name d.status (BudgetStatus.ofJson n)).map ({ d with status := · })
  | _ => n.ignore.map fun _ => d

def ofItems (items : Items) : Read (BudgetLine × Items) := do
  let expected := "struct BudgetLine with 6 elements"
  let (category, items) ← items.take Node.text 0 expected
  let (budget, items) ← items.take Node.float 1 expected
  let (spent, items) ← items.take Node.float 2 expected
  let (remaining, items) ← items.take Node.float 3 expected
  let (percentUsed, items) ← items.take Node.float 4 expected
  let (status, items) ← items.take BudgetStatus.ofJson 5 expected
  return ({ category, budget, spent, remaining, percentUsed, status }, items)

def ofMembers (members : Members) : Read BudgetLine := do
  let d ← members.foldRead Draft.put {}
  return { category := ← need "category" d.category
           budget := ← need "budget" d.budget
           spent := ← need "spent" d.spent
           remaining := ← need "remaining" d.remaining
           percentUsed := ← need "percent_used" d.percentUsed
           status := ← need "status" d.status }

def ofJson (n : Node) : Read BudgetLine := n.structure "struct BudgetLine" ofItems ofMembers

end BudgetLine

end Outlay.Spending
