import Outlay.Decimal.Layout
import Outlay.Form.Spending
import Outlay.Form.Token
import Outlay.Form.Transaction

/-!
Reports as texts: for a reader, in columns, or for a program, in JSON. Columns are wide enough for
usual entries and give way to longer ones.
-/

namespace Outlay.Report

open Spending Calendar

def padLeft (width : Nat) (s : String) : String := String.ofList (s.toList.leftpad width ' ')

def padRight (width : Nat) (s : String) : String := String.ofList (s.toList.rightpad width ' ')

/-- Amounts have two places. -/
def money (x : Float) : String := Decimal.fixed 2 false x

def countText (n : Int) : String := String.ofList (Decimal.intText n)

def line (parts : List String) : String := String.join parts ++ "\n"

def json (v : Json.Value) : String := v.prettyText ++ "\n"

def recordLine (t : Transaction) : String :=
  line [padLeft 5 (countText t.id.toInt), "  ", String.ofList t.timestamp.minuteText, "  ",
    padLeft 10 (money t.amount.value), "  ", padRight 14 t.category, "  ", t.description]

/-- The records found among `count`. -/
def search (count : Nat) (found : List Transaction) : String :=
  String.join (found.map recordLine) ++
    line ["\n", countText found.length, " of ", countText count, " transactions | total ",
      money (total found)]

def searchJson (found : List Transaction) : String := json (.array (found.map (·.toJson)))

def rowLine (r : Row) : String :=
  line [padRight 30 r.key, " ", padLeft 12 (money r.total.value), "  (", countText r.count, ")"]

def summary (grouping : Grouping) (limit : Option Nat) (records : List Transaction) : String :=
  line ["Spending by ", grouping.name, " (", countText records.length, " transactions)\n"] ++
    String.join ((summarize grouping limit records).map rowLine) ++
    line ["\nTotal: ", money (total records)]

/-- Here what is no finite number is null, and names come in alphabetic order. -/
def rowJson (r : Row) : Json.Value :=
  .object [("count", .ofInt r.count), ("key", .string r.key), ("total", .ofFloat r.total.value)]

def summaryJson (grouping : Grouping) (limit : Option Nat) (records : List Transaction) : String :=
  json (.object [
    ("count", .ofInt records.length),
    ("group_by", grouping.toJson),
    ("rows", .array ((summarize grouping limit records).map rowJson)),
    ("total", .ofFloat (total records))])

def periodLine (title : String) (p : PeriodTotal) : String :=
  line [padRight 9 title, " ", String.ofList p.period.first.text, " .. ",
    String.ofList p.period.last.text, "  ", padLeft 12 (money p.total)]

def comparison (category : Option String) (c : Comparison) : String :=
  line ["Spending, ", category.getD "all categories", "\n"] ++
    periodLine "current" c.current ++ periodLine "previous" c.previous ++
    line ["\n", c.verdict.name, ": ", Decimal.fixed 2 true c.difference, " (",
      Decimal.fixed 1 true c.percentChange, "%)"]

def comparisonJson (c : Comparison) : String := json c.toJson

def budgetLine (l : BudgetLine) : String :=
  line [padRight 20 l.category, " ", padLeft 10 (money l.spent), " / ",
    padLeft 10 (money l.budget), "  ", padLeft 6 (Decimal.fixed 1 false l.percentUsed), "%  ",
    l.status.label]

def budget (month : Day) (lines : List BudgetLine) : String :=
  line ["Budgets for ", String.ofList month.monthText, "\n"] ++ String.join (lines.map budgetLine)

def budgetJson (lines : List BudgetLine) : String := json (.array (lines.map (·.toJson)))

def tokensJson (tokens : List Query.Token) : String := json (.array (tokens.map (·.toJson)))

end Outlay.Report
