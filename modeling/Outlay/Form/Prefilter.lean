import Outlay.Json.Reading
import Outlay.Prefilter

/-!
The coarse filter as JSON. A constraint may be missing or `null`.
-/

namespace Outlay.Prefilter

open Json Calendar

def toJson (f : Prefilter) : Value :=
  .object [
    ("start", .orNull (.ofChars ∘ Day.text) f.first),
    ("end", .orNull (.ofChars ∘ Day.text) f.last),
    ("category", .orNull .string f.category),
    ("min_amount", .orNull .ofFloat f.least)]

structure Draft where
  first : Option (Option Day) := none
  last : Option (Option Day) := none
  category : Option (Option String) := none
  least : Option (Option Float) := none

def Draft.put (d : Draft) (name : String) (n : Node) : Read Draft :=
  match name with
  | "start" => (once name d.first (n.optional Node.day)).map ({ d with first := · })
  | "end" => (once name d.last (n.optional Node.day)).map ({ d with last := · })
  | "category" => (once name d.category (n.optional Node.text)).map ({ d with category := · })
  | "min_amount" => (once name d.least (n.optional Node.float)).map ({ d with least := · })
  | _ => n.ignore.map fun _ => d

def ofItems (items : Items) : Read (Prefilter × Items) := do
  let expected := "struct TransactionFilter with 4 elements"
  let (first, items) ← items.take (·.optional Node.day) 0 expected
  let (last, items) ← items.take (·.optional Node.day) 1 expected
  let (category, items) ← items.take (·.optional Node.text) 2 expected
  let (least, items) ← items.take (·.optional Node.float) 3 expected
  return ({ first, last, category, least }, items)

def ofMembers (members : Members) : Read Prefilter := do
  let d ← members.foldRead Draft.put {}
  return { first := d.first.join, last := d.last.join, category := d.category.join,
           least := d.least.join }

def ofJson (n : Node) : Read Prefilter :=
  n.structure "struct TransactionFilter" ofItems ofMembers

end Outlay.Prefilter
