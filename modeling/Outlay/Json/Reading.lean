import Outlay.Json.Node

/-!
Reading values of given types from trees. A structure is written as an object, whose unknown members
are ignored, or as an array of its fields in order; a name from a list as a string, or as an object
with that name and `null`.
-/

namespace Outlay.Json

/-- How many arrays and objects may lie inside each other. What is ignored may lie deeper. -/
def depthLimit : Nat := 127

mutual

/-- Passes over a value that nobody wants. Its words have to be sound, but codes in strings need not
make characters and numbers may be too large. -/
def Node.skip : Node → Except Fault Unit
  | .null => .ok ()
  | .bool _ => .ok ()
  | .number (.ok _) => .ok ()
  | .number (.error _) => .error .malformed
  | .string s => s.fault.elim (.ok ()) .error
  | .misspelt f => .error f
  | .array items => items.skip
  | .object members => members.skip
  | .broken f => .error f
termination_by structural n => n

def Items.skip : Items → Except Fault Unit
  | .done fault => fault.elim (.ok ()) .error
  | .item n rest => do
    n.skip
    rest.skip
termination_by structural items => items

def Members.skip : Members → Except Fault Unit
  | .done fault => fault.elim (.ok ()) .error
  | .member key value rest => do
    match key with
    | .string s => s.fault.elim (.ok ()) .error
    | .broken f => .error f
    value.skip
    rest.skip
termination_by structural members => members

end

/-- The name of a member. -/
def Key.name : Key → Read String
  | .string s => s.read.mapError .fault
  | .broken f => spoiled f

mutual

/-- Reads a value of any shape, with at most `room` levels of arrays and objects. -/
def Node.value (room : Nat) : Node → Read Value
  | .null => .ok .null
  | .bool b => .ok (.bool b)
  | .number n => ((readNumber n).map Value.number).mapError .fault
  | .string s => (s.read.map Value.string).mapError .fault
  | .misspelt f => spoiled f
  | .array items =>
    if room = 0 then spoiled .malformed else (items.values (room - 1)).map .array
  | .object members =>
    if room = 0 then spoiled .malformed else (members.values (room - 1)).map .object
  | .broken f => spoiled f
termination_by structural n => n

def Items.values (room : Nat) : Items → Read (List Value)
  | .done none => .ok []
  | .done (some f) => spoiled f
  | .item n rest => do
    let v ← n.value room
    return v :: (← rest.values room)
termination_by structural items => items

def Members.values (room : Nat) : Members → Read (List (String × Value))
  | .done none => .ok []
  | .done (some f) => spoiled f
  | .member key value rest => do
    let name ← key.name
    let v ← value.value room
    return (name, v) :: (← rest.values room)
termination_by structural members => members

end

def Value.kind : Value → Kind
  | null => .null
  | bool b => .bool b
  | number n => .ofNumber n
  | string s => .text s
  | array _ => .sequence
  | object _ => .map

/-! Values without parts. -/

namespace Kind

def readText (k : Kind) (expected : String) : Read String :=
  match k with
  | text s => .ok s
  | _ => mismatch (.invalidType k expected)

def readFloat (k : Kind) : Read Float :=
  match k with
  | integer n => .ok (Decimal.toFloat ⟨n < 0, n.natAbs, 0⟩)
  | float x => .ok x
  | _ => mismatch (.invalidType k "f64")

/-- A whole number from `least` to `most`. -/
def readInteger (k : Kind) (least most : Int) (expected : String) : Read Int :=
  match k with
  | integer n =>
    if least ≤ n ∧ n ≤ most then .ok n else mismatch (.invalidValue k expected)
  | _ => mismatch (.invalidType k expected)

def readInt64 (k : Kind) : Read Int64 :=
  (k.readInteger Int64.minValue.toInt Int64.maxValue.toInt "i64").map Int64.ofInt

def readCount (k : Kind) : Read Nat :=
  (k.readInteger 0 (UInt64.size - 1) "usize").map Int.toNat

def readDay (k : Kind) : Read Calendar.Day := do
  let s ← k.readText "a formatted date string"
  (Calendar.readSpacedDay s.toList).mapError (.mismatch ∘ .misread)

def readTimestamp (k : Kind) : Read Calendar.Timestamp := do
  let s ← k.readText "a formatted date and time string"
  (Calendar.readSpacedTimestamp s.toList).mapError (.mismatch ∘ .misread)

def readUnit (k : Kind) : Read Unit :=
  match k with
  | null => .ok ()
  | _ => mismatch (.invalidType k "unit")

end Kind

namespace Node

def text (n : Node) : Read String := n.kind.bind (·.readText "a string")

def float (n : Node) : Read Float := n.kind.bind Kind.readFloat

def int64 (n : Node) : Read Int64 := n.kind.bind Kind.readInt64

def count (n : Node) : Read Nat := n.kind.bind Kind.readCount

def day (n : Node) : Read Calendar.Day := n.kind.bind Kind.readDay

def timestamp (n : Node) : Read Calendar.Timestamp := n.kind.bind Kind.readTimestamp

/-- `null` stands for nothing. -/
def optional {α : Type} (read : Node → Read α) (n : Node) : Read (Option α) :=
  match n with
  | null => .ok none
  | _ => (read n).map some

def ignore (n : Node) : Read Unit := n.skip.mapError .fault

end Node

/-! Names from a list. -/

/-- The meanings of names, in the order in which a message lists them. -/
abbrev Variants (α : Type) := List (String × α)

def Variants.find {α : Type} (variants : Variants α) (name : String) : Read α :=
  match variants.lookup name with
  | some a => .ok a
  | none => mismatch (.unknownVariant name (variants.map (·.1)))

def Variants.ofNames {α : Type} (all : List α) (name : α → String) : Variants α :=
  all.map fun a => (name a, a)

/-- Nothing may come any more. -/
def Members.close : Members → Read Unit
  | .done none => .ok ()
  | .done (some f) => spoiled f
  | .member .. => spoiled .malformed

def Node.variant {α : Type} (variants : Variants α) (n : Node) : Read α :=
  match n with
  | .string s => do variants.find (← s.read.mapError .fault)
  | .object (.member key value rest) => do
    let a ← variants.find (← key.name)
    (← value.kind).readUnit
    rest.close
    return a
  | .object (.done (some f)) => spoiled f
  | .broken f => spoiled f
  | _ => spoiled .malformed

/-! Structures. -/

/-- A field that may be read only once. -/
def once {α : Type} (field : String) (old : Option α) (read : Read α) : Read (Option α) :=
  if old.isSome then mismatch (.duplicate field) else read.map some

def need {α : Type} (field : String) (value : Option α) : Read α :=
  match value with
  | some a => .ok a
  | none => mismatch (.missing field)

/-- Reads members from left to right into a draft of the structure. -/
def Members.foldRead {α : Type} (put : α → String → Node → Read α) (draft : α) :
    Members → Read α
  | .done none => .ok draft
  | .done (some f) => spoiled f
  | .member key value rest => do
    let name ← key.name
    let draft ← put draft name value
    rest.foldRead put draft
termination_by structural members => members

/-- The next item, if there is one, and the others. -/
def Items.next {α : Type} (read : Node → Read α) : Items → Read (Option α × Items)
  | .done none => .ok (none, .done none)
  | .done (some f) => spoiled f
  | .item n rest => do return (some (← read n), rest)

/-- The item at the given index, which has to be there. -/
def Items.take {α : Type} (read : Node → Read α) (index : Nat) (expected : String)
    (items : Items) : Read (α × Items) := do
  match ← items.next read with
  | (some a, rest) => return (a, rest)
  | (none, _) => mismatch (.invalidLength index expected)

def Items.close : Items → Read Unit
  | .done none => .ok ()
  | .done (some f) => spoiled f
  | .item .. => spoiled .malformed

def Items.mapRead {α : Type} (read : Node → Read α) : Items → Read (List α)
  | .done none => .ok []
  | .done (some f) => spoiled f
  | .item n rest => do
    let a ← read n
    return a :: (← rest.mapRead read)
termination_by structural items => items

def Node.list {α : Type} (read : Node → Read α) (n : Node) : Read (List α) :=
  match n with
  | .array items => items.mapRead read
  | _ => do mismatch (.invalidType (← n.kind) "a sequence")

/-- A structure as an array or as an object. -/
def Node.structure {α : Type} (expected : String) (ofItems : Items → Read (α × Items))
    (ofMembers : Members → Read α) (n : Node) : Read α :=
  match n with
  | .array items => do
    let (a, rest) ← ofItems items
    rest.close
    return a
  | .object members => ofMembers members
  | _ => do mismatch (.invalidType (← n.kind) expected)

end Outlay.Json
