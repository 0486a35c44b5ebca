import Outlay.Toml.Scalar

/-!
Tables of TOML, complete and while they are put together. Every key is set once and every table is
defined once; a table that only paths lead through may still be defined, and one that dotted keys
have made may be filled by more of them.
-/

namespace Outlay.Toml

inductive Value where
  | scalar (s : Scalar)
  | array (items : List Value)
  | table (entries : List (String × Value))

/-- How a table came to be. -/
inductive Origin where
  /-- A header names a table inside it. -/
  | implied
  /-- A dotted key leads through it. -/
  | dotted
  | defined
  deriving DecidableEq, Repr

/-- What a key stands for in a table that may grow. -/
inductive Item where
  | value (v : Value)
  | table (origin : Origin) (entries : List (String × Item))
  /-- Elements of an array that have headers of their own. -/
  | tables (elements : List (List (String × Item)))

abbrev Entries := List (String × Item)

abbrev Key := List String

namespace Entries

/-- Changes what a key stands for. -/
def alter (key : String) (f : Option Item → Option Item) : Entries → Option Entries
  | [] => (f none).map fun item => [(key, item)]
  | (k, item) :: rest =>
    if k = key then (f (some item)).map fun item => (k, item) :: rest
    else (alter key f rest).map ((k, item) :: ·)

/-- Changes the last element. -/
def onLast (f : Entries → Option Entries) : List Entries → Option (List Entries)
  | [] => none
  | [t] => (f t).map ([·])
  | t :: rest => (onLast f rest).map (t :: ·)

/-- Sets a key, which dots may lead into tables. The table that takes the last name must be one that
such keys have made. -/
def assign (v : Value) : Key → Entries → Option Entries
  | [], _ => none
  | [key], entries => entries.alter key fun old => if old.isNone then some (.value v) else none
  | key :: next :: path, entries => entries.alter key fun
    | none => (assign v (next :: path) []).map (.table .dotted)
    | some (.table .dotted es) => (assign v (next :: path) es).map (.table .dotted)
    | some (.table .implied es) =>
      if path.isEmpty then none else (assign v (next :: path) es).map (.table .implied)
    | some (.tables ts) =>
      if path.isEmpty then none else (onLast (assign v (next :: path)) ts).map .tables
    | _ => none

/-- Follows the key of a header and changes what it leads to. -/
def follow (f : Option Item → Option Item) : Key → Entries → Option Entries
  | [], _ => none
  | [key], entries => entries.alter key f
  | key :: next :: path, entries => entries.alter key fun
    | none => (follow f (next :: path) []).map (.table .implied)
    | some (.table origin es) => (follow f (next :: path) es).map (.table origin)
    | some (.tables ts) => (onLast (follow f (next :: path)) ts).map .tables
    | some (.value _) => none

def define : Option Item → Option Item
  | none => some (.table .defined [])
  | some (.table .implied es) => some (.table .defined es)
  | _ => none

/-- Adds an element to an array of tables. -/
def extend : Option Item → Option Item
  | none => some (.tables [[]])
  | some (.tables ts) => some (.tables (ts ++ [[]]))
  | _ => none

/-- Changes the table that a header has opened. -/
def inside (f : Entries → Option Entries) : Option Item → Option Item
  | some (.table origin es) => (f es).map (.table origin)
  | some (.tables ts) => (onLast f ts).map .tables
  | _ => none

end Entries

mutual

def Item.toValue : Item → Value
  | .value v => v
  | .table _ entries => .table (entryValues entries)
  | .tables elements => .array (elementValues elements)
termination_by structural item => item

def entryValues : List (String × Item) → List (String × Value)
  | [] => []
  | (key, item) :: rest => (key, item.toValue) :: entryValues rest
termination_by structural entries => entries

def elementValues : List (List (String × Item)) → List Value
  | [] => []
  | entries :: rest => .table (entryValues entries) :: elementValues rest
termination_by structural elements => elements

end

/-- A statement of a document. -/
inductive Statement where
  | assign (key : Key) (v : Value)
  /-- Opens a table. -/
  | header (key : Key)
  /-- Opens a new element of an array of tables. -/
  | element (key : Key)

/-- A document read so far. -/
structure Draft where
  root : Entries := []
  /-- The header whose table is open; empty for the root. -/
  opened : Key := []

namespace Draft

def add (d : Draft) (s : Statement) : Option Draft :=
  match s with
  | .assign key v =>
    match d.opened with
    | [] => (Entries.assign v key d.root).map ({ d with root := · })
    | opened =>
      (Entries.follow (Entries.inside (Entries.assign v key)) opened d.root).map
        ({ d with root := · })
  | .header key => (Entries.follow Entries.define key d.root).map ({ root := ·, opened := key })
  | .element key => (Entries.follow Entries.extend key d.root).map ({ root := ·, opened := key })

end Draft

/-- The table that statements make up. -/
def tableOf? (statements : List Statement) : Option (List (String × Value)) := do
  return entryValues (← statements.foldlM Draft.add {}).root

/-- The table that keys and values in braces make up. -/
def inlineTable? (pairs : List (Key × Value)) : Option (List (String × Value)) :=
  tableOf? (pairs.map fun (key, v) => .assign key v)

end Outlay.Toml
