import Outlay.Text.Blank
import Outlay.Text.Lowercase
import Outlay.Transaction

/-!
Spending totals by category, merchant or day, or one row for each record. The rows come largest
first, those of days in order of their texts; rows that tie stay in the order in which their keys
were first met.
-/

namespace Outlay.Spending

inductive Grouping where
  /-- One row for each record. -/
  | each
  | category
  | merchant
  | day
  deriving DecidableEq, Repr

namespace Grouping

def name : Grouping → String
  | each => "none"
  | category => "category"
  | merchant => "merchant"
  | day => "day"

def all : List Grouping := [each, category, merchant, day]

def ofName? (name : String) : Option Grouping := all.find? (·.name == name)

/-- The name that no grouping has. -/
structure Unknown where
  name : String
  deriving DecidableEq, Repr

def Unknown.message (u : Unknown) : String :=
  "unknown grouping '" ++ u.name ++ "' (expected none, category, merchant or day)"

/-- Reads a name in any case, with blanks around it. -/
def read (text : String) : Except Unknown Grouping :=
  let name := Text.lowercased (Text.trimmed text)
  match ofName? name with
  | some grouping => .ok grouping
  | none => .error ⟨name⟩

end Grouping

structure Row where
  key : String
  total : Amount
  count : Nat
  deriving DecidableEq

namespace Row

def single (key : String) (amount : Amount) : Row := ⟨key, amount, 1⟩

def add (r : Row) (amount : Amount) : Row where
  key := r.key
  total := r.total + amount
  count := r.count + 1

/-- Adds an amount to the row of the key, a new one at the end if there is none. -/
def put (key : String) (amount : Amount) : List Row → List Row
  | [] => [single key amount]
  | r :: rest => if r.key = key then r.add amount :: rest else r :: put key amount rest

end Row

/-- The rows in the order in which their keys are first met. -/
def groupBy (key : Transaction → String) (records : List Transaction) : List Row :=
  records.foldl (fun rows t => Row.put (key t) t.amount rows) []

def largestFirst (rows : List Row) : List Row :=
  rows.mergeSort fun a b => b.total.rank ≤ a.total.rank

def byKey (rows : List Row) : List Row :=
  rows.mergeSort fun a b => a.key ≤ b.key

def allRows (grouping : Grouping) (records : List Transaction) : List Row :=
  match grouping with
  | .each => largestFirst (records.map fun t => Row.single t.description t.amount)
  | .category => largestFirst (groupBy (·.category) records)
  | .merchant => largestFirst (groupBy (·.description) records)
  | .day => byKey (groupBy (fun t => String.ofList t.day.text) records)

/-- The rows of a summary, of which a limit keeps the first. -/
def summarize (grouping : Grouping) (limit : Option Nat) (records : List Transaction) : List Row :=
  match limit with
  | some count => (allRows grouping records).take count
  | none => allRows grouping records

end Outlay.Spending
