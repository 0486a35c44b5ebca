import Outlay.Decimal.Layout

/-!
JSON values. Whole numbers are kept apart from floats; members of an object keep their order and
may repeat a name.
-/

namespace Outlay.Json

inductive Number where
  | integer (n : Int)
  | float (x : Float)
  deriving DecidableEq

inductive Value where
  | null
  | bool (b : Bool)
  | number (n : Number)
  | string (s : String)
  | array (items : List Value)
  | object (members : List (String × Value))

/-- Floats have a point or a power, so they are told from integers. The point stays in place from
the fifth place behind it to the sixteenth before it. -/
def floatLayout : Decimal.Layout where
  plain power := -5 ≤ power && power ≤ 15
  tiesUp := false

/-- What is no finite number has no spelling of its own. -/
def floatText (x : Float) : List Char :=
  match Binary64.parts x with
  | .finite negative mantissa exponent => floatLayout.finite negative mantissa exponent
  | _ => "null".toList

def Number.text : Number → List Char
  | .integer n => Decimal.intText n
  | .float x => floatText x

/-- Two hexadecimal digits. -/
def hexPair (n : Nat) : List Char := [Nat.digitChar (n / 16), Nat.digitChar (n % 16)]

/-- Only quotes, backslashes and controls are escaped. -/
def escape (c : Char) : List Char :=
  match c with
  | '"' => ['\\', '"']
  | '\\' => ['\\', '\\']
  | '\x08' => ['\\', 'b']
  | '\x0c' => ['\\', 'f']
  | '\n' => ['\\', 'n']
  | '\r' => ['\\', 'r']
  | '\t' => ['\\', 't']
  | c => if c.toNat < 0x20 then '\\' :: 'u' :: '0' :: '0' :: hexPair c.toNat else [c]

def stringText (s : String) : List Char := '"' :: s.toList.flatMap escape ++ ['"']

example : stringText "a\"\u001f" = "\"a\\\"\\u001f\"".toList := by decide +kernel
example : floatText 1e16 = "1e+16".toList ∧ floatText 0.00001 = "0.00001".toList := by
  decide +kernel
example : floatText (-0.0) = "-0.0".toList ∧ floatText 1.5e-7 = "1.5e-7".toList := by
  decide +kernel

namespace Value

def ofFloat (x : Float) : Value := number (.float x)

def ofInt (n : Int) : Value := number (.integer n)

def ofChars (s : List Char) : Value := string (String.ofList s)

def orNull {α : Type} (encode : α → Value) (value : Option α) : Value :=
  (value.map encode).getD null

mutual

/-- The text without any blanks. -/
def compact : Value → List Char
  | null => "null".toList
  | bool b => (if b then "true" else "false").toList
  | number n => n.text
  | string s => stringText s
  | array items => '[' :: compactItems items
  | object members => '{' :: compactMembers members
termination_by structural v => v

/-- What follows an opening bracket. -/
def compactItems : List Value → List Char
  | [] => [']']
  | item :: rest => item.compact ++ compactMoreItems rest
termination_by structural items => items

def compactMoreItems : List Value → List Char
  | [] => [']']
  | item :: rest => ',' :: item.compact ++ compactMoreItems rest
termination_by structural items => items

/-- What follows an opening brace. -/
def compactMembers : List (String × Value) → List Char
  | [] => ['}']
  | (name, value) :: rest =>
    stringText name ++ ':' :: value.compact ++ compactMoreMembers rest
termination_by structural members => members

def compactMoreMembers : List (String × Value) → List Char
  | [] => ['}']
  | (name, value) :: rest =>
    ',' :: stringText name ++ ':' :: value.compact ++ compactMoreMembers rest
termination_by structural members => members

end

def newline (depth : Nat) : List Char := '\n' :: List.replicate (2 * depth) ' '

mutual

/-- The text with every item and member on a line of its own, two blanks further in. -/
def pretty (depth : Nat) : Value → List Char
  | null => "null".toList
  | bool b => (if b then "true" else "false").toList
  | number n => n.text
  | string s => stringText s
  | array items => '[' :: prettyItems depth items
  | object members => '{' :: prettyMembers depth members
termination_by structural v => v

def prettyItems (depth : Nat) : List Value → List Char
  | [] => [']']
  | item :: rest =>
    newline (depth + 1) ++ item.pretty (depth + 1) ++ prettyMoreItems depth rest
termination_by structural items => items

def prettyMoreItems (depth : Nat) : List Value → List Char
  | [] => newline depth ++ [']']
  | item :: rest =>
    ',' :: newline (depth + 1) ++ item.pretty (depth + 1) ++ prettyMoreItems depth rest
termination_by structural items => items

def prettyMembers (depth : Nat) : List (String × Value) → List Char
  | [] => ['}']
  | (name, value) :: rest =>
    newline (depth + 1) ++ stringText name ++ ':' :: ' ' :: value.pretty (depth + 1) ++
      prettyMoreMembers depth rest
termination_by structural members => members

def prettyMoreMembers (depth : Nat) : List (String × Value) → List Char
  | [] => newline depth ++ ['}']
  | (name, value) :: rest =>
    ',' :: newline (depth + 1) ++ stringText name ++ ':' :: ' ' :: value.pretty (depth + 1) ++
      prettyMoreMembers depth rest
termination_by structural members => members

end

def compactText (v : Value) : String := String.ofList v.compact

def prettyText (v : Value) : String := String.ofList (v.pretty 0)

example : (object [("a", array [null, bool true]), ("b", object [])]).compactText =
    "\x7b\"a\":[null,true],\"b\":\x7b\x7d\x7d" := by
  decide +kernel
example : (array [array [], bool false]).prettyText = "[\n  [],\n  false\n]" := by
  decide +kernel

end Value

end Outlay.Json
