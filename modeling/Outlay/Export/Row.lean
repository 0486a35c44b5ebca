import Outlay.Export.Amount
import Outlay.Export.Moment
import Outlay.Log
import Outlay.Transaction

/-!
Rows of an export before they are checked. A row that cannot become a record is reported and left
out; it keeps its position all the same.
-/

namespace Outlay.Export

structure RawRow where
  id : Option Int64 := none
  description : String
  /-- A number that needs no reading. -/
  amount : Option Float := none
  amountText : String := ""
  category : Option String := none
  timestamp : String

/-- The category of rows that name none. -/
def defaultCategory : String := "Uncategorized"

def categoryOf (category : Option String) : String :=
  ((category.map Text.trimmed).filter (!·.isEmpty)).getD defaultCategory

namespace RawRow

def readAmount (row : RawRow) (position : Nat) : Except Event Float :=
  match row.amount.or (readAmount? row.amountText) with
  | none => .error (.unreadableAmount position row.amountText)
  | some amount =>
    if amount ≥ 0.0 then .ok amount else .error (.negativeAmount position amount)

def readTimestamp (row : RawRow) (position : Nat) : Except Event Calendar.Timestamp :=
  match readMoment? row.timestamp with
  | none => .error (.unreadableTimestamp position row.timestamp)
  | some timestamp => .ok timestamp

/-- The record of a row. The position serves as the id of a row without one. -/
def toRecord (row : RawRow) (position : Nat) : Except Event Transaction := do
  let amount ← row.readAmount position
  let timestamp ← row.readTimestamp position
  return { id := row.id.getD (Int64.ofNat position)
           description := Text.trimmed row.description
           amount := .ofFloat amount
           category := categoryOf row.category
           timestamp }

end RawRow

/-- What became of an export: the records it holds and the reports on the rows left out. -/
structure Import where
  records : List Transaction := []
  events : List Event := []

namespace Import

def add (i : Import) (outcome : Except Event Transaction) : Import :=
  match outcome with
  | .ok record => { i with records := record :: i.records }
  | .error event => { i with events := event :: i.events }

/-- Takes in rows with their positions, in order. -/
def ofRows (rows : List (RawRow × Nat)) : Import :=
  rows.foldr (fun row rest => rest.add (row.1.toRecord row.2)) {}

end Import

end Outlay.Export
