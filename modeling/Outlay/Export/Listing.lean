import Outlay.Export.Row
import Outlay.Json.Reading

/-!
Exports that are JSON: an array of objects. The amount may be a number or a text, and the timestamp
may be called `date`.
-/

namespace Outlay.Export

open Json

inductive ListedAmount where
  | number (x : Float)
  | text (s : String)
  deriving DecidableEq

/-- All of the value is read before it is looked at. It lies in an object in an array. -/
def ListedAmount.ofJson (n : Node) : Read ListedAmount := do
  match (← n.value (depthLimit - 2)).kind with
  | .text s => return text s
  | .integer i => return number (← (Kind.integer i).readFloat)
  | .float x => return number x
  | _ => mismatch (.noVariant "JsonAmount")

structure ListedRow where
  id : Option Int64
  description : String
  amount : ListedAmount
  category : Option String
  timestamp : String
  deriving DecidableEq

namespace ListedRow

structure Draft where
  id : Option (Option Int64) := none
  description : Option String := none
  amount : Option ListedAmount := none
  category : Option (Option String) := none
  timestamp : Option String := none

def Draft.put (d : Draft) (name : String) (n : Node) : Read Draft :=
  match name with
  | "id" => (once name d.id (n.optional Node.int64)).map ({ d with id := · })
  | "description" => (once name d.description n.text).map ({ d with description := · })
  | "amount" => (once name d.amount (ListedAmount.ofJson n)).map ({ d with amount := · })
  | "category" => (once name d.category (n.optional Node.text)).map ({ d with category := · })
  | "timestamp" | "date" =>
    (once "timestamp" d.timestamp n.text).map ({ d with timestamp := · })
  | _ => n.ignore.map fun _ => d

def Draft.done (d : Draft) : Read ListedRow :=
  return { id := d.id.join
           description := ← need "description" d.description
           amount := ← need "amount" d.amount
           category := d.category.join
           timestamp := ← need "timestamp" d.timestamp }

/-- An id or a category that the array does not reach is taken as missing. -/
def ofItems (items : Items) : Read (ListedRow × Items) := do
  let expected := "struct JsonRow with 5 elements"
  let (id, items) ← items.next (·.optional Node.int64)
  let (description, items) ← items.take Node.text 1 expected
  let (amount, items) ← items.take ListedAmount.ofJson 2 expected
  let (category, items) ← items.next (·.optional Node.text)
  let (timestamp, items) ← items.take Node.text 4 expected
  return ({ id := id.join, description, amount, category := category.join, timestamp }, items)

def ofMembers (members : Members) : Read ListedRow := do
  (← members.foldRead Draft.put {}).done

def ofJson (n : Node) : Read ListedRow := n.structure "struct JsonRow" ofItems ofMembers

def raw (row : ListedRow) : RawRow where
  id := row.id
  description := row.description
  amount :=
    match row.amount with
    | .number x => some x
    | .text _ => none
  amountText :=
    match row.amount with
    | .number _ => ""
    | .text s => s
  category := row.category
  timestamp := row.timestamp

end ListedRow

/-- Takes in all rows, the first at position 1. -/
def ofListing (rows : List ListedRow) : Import :=
  .ofRows ((rows.zipIdx 1).map fun (row, position) => (row.raw, position))

def readListing (text : String) : Read Import :=
  (readText (Node.list ListedRow.ofJson) text).map ofListing

end Outlay.Export
