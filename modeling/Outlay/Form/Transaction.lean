import Outlay.Json.Reading
import Outlay.Transaction

/-!
Records as JSON.
-/

namespace Outlay.Transaction

open Json Calendar

def toJson (t : Transaction) : Value :=
  .object [
    ("id", .ofInt t.id.toInt),
    ("description", .string t.description),
    ("amount", .ofFloat t.amount.value),
    ("category", .string t.category),
    ("timestamp", .ofChars t.timestamp.text)]

/-- The fields that were read so far. -/
structure Draft where
  id : Option Int64 := none
  description : Option String := none
  amount : Option Float := none
  category : Option String := none
  timestamp : Option Timestamp := none

def Draft.put (d : Draft) (name : String) (n : Node) : Read Draft :=
  match name with
  | "id" => (once name d.id n.int64).map ({ d with id := · })
  | "description" => (once name d.description n.text).map ({ d with description := · })
  | "amount" => (once name d.amount n.float).map ({ d with amount := · })
  | "category" => (once name d.category n.text).map ({ d with category := · })
  | "timestamp" => (once name d.timestamp n.timestamp).map ({ d with timestamp := · })
  | _ => n.ignore.map fun _ => d

def Draft.done (d : Draft) : Read Transaction :=
  return { id := ← need "id" d.id
           description := ← need "description" d.description
           amount := .ofFloat (← need "amount" d.amount)
           category := ← need "category" d.category
           timestamp := ← need "timestamp" d.timestamp }

def ofItems (items : Items) : Read (Transaction × Items) := do
  let expected := "struct Transaction with 5 elements"
  let (id, items) ← items.take Node.int64 0 expected
  let (description, items) ← items.take Node.text 1 expected
  let (amount, items) ← items.take Node.float 2 expected
  let (category, items) ← items.take Node.text 3 expected
  let (timestamp, items) ← items.take Node.timestamp 4 expected
  return ({ id, description, amount := .ofFloat amount, category, timestamp }, items)

def ofMembers (members : Members) : Read Transaction := do
  (← members.foldRead Draft.put {}).done

def ofJson (n : Node) : Read Transaction :=
  n.structure "struct Transaction" ofItems ofMembers

end Outlay.Transaction
