import Outlay.Json.Reading
import Outlay.Query.Token

/-!
Tokens as JSON: objects whose member `kind` tells which kind of token the other members belong to.
All of the object is read before these are looked at.
-/

namespace Outlay.Query

open Json

namespace Operator

def toJson (op : Operator) : Value := .string op.symbol

def variants : Variants Operator := .ofNames all symbol

def ofJson (n : Node) : Read Operator := n.variant variants

/-- Here the name may be followed by an empty object, too. -/
def ofValue (v : Value) : Read Operator :=
  match v with
  | .string s => variants.find s
  | .object [(name, value)] => do
    let op ← variants.find name
    match value with
    | .object [] => return op
    | _ =>
      value.kind.readUnit
      return op
  | .object _ => mismatch (.invalidValue .map "map with a single key")
  | _ => mismatch (.invalidType v.kind "string or map")

end Operator

namespace Token

def toJson : Token → Value
  | filter field op value =>
    .object [("kind", .string "filter"), ("field", .string field), ("operator", op.toJson),
      ("value", .string value)]
  | text value => .object [("kind", .string "text"), ("value", .string value)]

inductive Tag where
  | filter
  | text
  deriving DecidableEq, Repr

def Tag.variants : Variants Tag := [("filter", .filter), ("text", .text)]

def Tag.ofJson (n : Node) : Read Tag := do
  Tag.variants.find (← (← n.kind).readText "variant identifier")

def textOf (v : Value) : Read String := v.kind.readText "a string"

/-- The fields of a filter that were read so far. -/
structure FilterDraft where
  field : Option String := none
  op : Option Operator := none
  value : Option String := none

def FilterDraft.put (d : FilterDraft) (m : String × Value) : Read FilterDraft :=
  match m.1 with
  | "field" => (once m.1 d.field (textOf m.2)).map ({ d with field := · })
  | "operator" => (once m.1 d.op (Operator.ofValue m.2)).map ({ d with op := · })
  | "value" => (once m.1 d.value (textOf m.2)).map ({ d with value := · })
  | _ => .ok d

def filterOfMembers (members : List (String × Value)) : Read Token := do
  let d ← members.foldlM FilterDraft.put {}
  return filter (← need "field" d.field) (← need "operator" d.op) (← need "value" d.value)

def putText (d : Option String) (m : String × Value) : Read (Option String) :=
  if m.1 = "value" then once m.1 d (textOf m.2) else .ok d

def textOfMembers (members : List (String × Value)) : Read Token := do
  return text (← need "value" (← members.foldlM putText none))

/-- The value at an index of an array that has to have at least so many. -/
def valueAt {α : Type} (read : Value → Read α) (values : List Value) (index : Nat)
    (expected : String) : Read α :=
  match values[index]? with
  | some v => read v
  | none => mismatch (.invalidLength index expected)

def filterOfValues (values : List Value) : Read Token := do
  let expected := "struct variant SearchToken::Filter with 3 elements"
  let field ← valueAt textOf values 0 expected
  let op ← valueAt Operator.ofValue values 1 expected
  let value ← valueAt textOf values 2 expected
  if 3 < values.length then
    mismatch (.invalidLength values.length "3 elements in sequence")
  else return filter field op value

def textOfValues (values : List Value) : Read Token := do
  let value ← valueAt textOf values 0 "struct variant SearchToken::Text with 1 element"
  if 1 < values.length then
    mismatch (.invalidLength values.length "1 element in sequence")
  else return text value

/-- The members read so far, the last of them first. -/
structure Draft where
  tag : Option Tag := none
  others : List (String × Value) := []

def Draft.put (d : Draft) (name : String) (n : Node) : Read Draft :=
  if name = "kind" then (once name d.tag (Tag.ofJson n)).map ({ d with tag := · })
  else (n.value (depthLimit - 1)).map fun v => { d with others := (name, v) :: d.others }

def ofJson (n : Node) : Read Token :=
  match n with
  | .object members => do
    let d ← members.foldRead Draft.put {}
    match ← need "kind" d.tag with
    | .filter => filterOfMembers d.others.reverse
    | .text => textOfMembers d.others.reverse
  | .array items => do
    match ← items.next Tag.ofJson with
    | (none, _) => mismatch (.missing "kind")
    | (some tag, rest) =>
      let values ← rest.values (depthLimit - 1)
      match tag with
      | .filter => filterOfValues values
      | .text => textOfValues values
  | _ => do mismatch (.invalidType (← n.kind) "internally tagged enum SearchToken")

end Token

end Outlay.Query
