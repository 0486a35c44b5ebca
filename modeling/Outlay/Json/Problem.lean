import Outlay.Calendar.Pattern
import Outlay.Json.Lexeme
import Outlay.Json.Value
import Outlay.Text.Quoted

/-!
Why a text is not read as what it should be: its words are not JSON, or the value that they write is
of another shape. The first problem from the left counts.
-/

namespace Outlay.Json

/-- What a value is, seen from outside. -/
inductive Kind where
  | null
  | bool (b : Bool)
  | integer (n : Int)
  | float (x : Float)
  | text (s : String)
  | sequence
  | map
  deriving DecidableEq

def Kind.ofNumber : Number → Kind
  | .integer n => integer n
  | .float x => float x

def Kind.describe : Kind → String
  | null => "null"
  | bool b => "boolean `" ++ (if b then "true" else "false") ++ "`"
  | integer n => "integer `" ++ String.ofList (Decimal.intText n) ++ "`"
  | float x => "floating point `" ++ String.ofList (floatText x) ++ "`"
  | text s => "string " ++ Text.quoted s
  | sequence => "sequence"
  | map => "map"

inductive Mismatch where
  | invalidType (found : Kind) (expected : String)
  | invalidValue (found : Kind) (expected : String)
  | invalidLength (length : Nat) (expected : String)
  | missing (field : String)
  | duplicate (field : String)
  | unknownVariant (name : String) (known : List String)
  /-- The value fits none of the alternatives of a type. -/
  | noVariant (type : String)
  | misread (m : Calendar.Misread)
  deriving DecidableEq

/-- Names between backticks, as a choice. -/
def choice (names : List String) : String :=
  let ticked := names.map fun name => "`" ++ name ++ "`"
  match ticked with
  | [a, b] => a ++ " or " ++ b
  | _ => "one of " ++ String.intercalate ", " ticked

def Mismatch.message : Mismatch → String
  | invalidType found expected =>
    "invalid type: " ++ found.describe ++ ", expected " ++ expected
  | invalidValue found expected =>
    "invalid value: " ++ found.describe ++ ", expected " ++ expected
  | invalidLength length expected =>
    "invalid length " ++ String.ofList (Decimal.intText length) ++ ", expected " ++ expected
  | missing field => "missing field `" ++ field ++ "`"
  | duplicate field => "duplicate field `" ++ field ++ "`"
  | unknownVariant name known =>
    "unknown variant `" ++ name ++ "`, expected " ++ choice known
  | noVariant type => "data did not match any variant of untagged enum " ++ type
  | misread m => m.message

inductive Problem where
  | fault (f : Fault)
  | mismatch (m : Mismatch)
  deriving DecidableEq

/-- The outcome of reading a value. -/
abbrev Read := Except Problem

def spoiled {α : Type} (f : Fault) : Read α := .error (.fault f)

def mismatch {α : Type} (m : Mismatch) : Read α := .error (.mismatch m)

end Outlay.Json
