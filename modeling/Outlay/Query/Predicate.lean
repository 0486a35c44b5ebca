import Outlay.Decimal
import Outlay.Query.Token
import Outlay.Text.Occurs
import Outlay.Transaction

/-!
What a token demands of a record. A token that makes no sense (an unknown field, a value that is no
number) demands nothing, so that a half-typed query never hides a record by accident.
-/

namespace Outlay.Query

open Text

inductive Field where
  | category
  | description
  | amount
  deriving DecidableEq, Repr

def Field.ofName? (name : String) : Option Field :=
  if name = "category" ∨ name = "cat" then some .category
  else if name = "description" ∨ name = "desc" then some .description
  else if name = "amount" ∨ name = "amt" then some .amount
  else none

/-- The attributes that are texts. -/
inductive TextField where
  | category
  | description
  deriving DecidableEq, Repr

def TextField.of (field : TextField) (t : Transaction) : String :=
  match field with
  | .category => t.category
  | .description => t.description

/-- Texts have no order here: the ordering operators ask for equality. -/
def Operator.relates (op : Operator) (actual expected : String) : Bool :=
  match op with
  | .notEqual => actual != expected
  | .contains => occursIn expected.toList actual.toList
  | _ => actual == expected

inductive Predicate where
  | always
  /-- The needle, in lowercase, occurs in description or category. -/
  | text (needle : String)
  /-- The expected text is in lowercase. -/
  | onText (field : TextField) (op : Operator) (expected : String)
  | onAmount (op : Operator) (value : Float)
  deriving DecidableEq

namespace Predicate

/-- A number that a record's amount can be compared with. -/
def bound? (value : String) : Option Float :=
  (readFloat? (trim value.toList)).filter (!·.isNaN)

def ofToken : Token → Predicate
  | .text value => text (lowercased value)
  | .filter field op value =>
    match Field.ofName? field with
    | none => always
    | some .category => onText .category op (lowercased value)
    | some .description => onText .description op (lowercased value)
    | some .amount =>
      match bound? value with
      | some bound => if op = .contains then always else onAmount op bound
      | none => always

def accepts (p : Predicate) (t : Transaction) : Bool :=
  match p with
  | always => true
  | text needle =>
    occursIn needle.toList (lowercase t.description.toList) ||
      occursIn needle.toList (lowercase t.category.toList)
  | onText field op expected => op.relates (lowercased (field.of t)) expected
  | onAmount op value => (op.compare? t.amount.value value).getD true

end Predicate

def Token.accepts (token : Token) (t : Transaction) : Bool := (Predicate.ofToken token).accepts t

end Outlay.Query
