import Outlay.Spending.Budget
import Outlay.Spending.Summary
import Outlay.Toml.Document

/-!
The settings that reports start from, and their file in TOML. What the file leaves out keeps its
default, and keys that are not known do not matter.
-/

namespace Outlay

open Spending Toml

structure Config where
  /-- The export that is read if none is named. -/
  dataFile : String := "transactions.csv"
  logLevel : String := "warn"
  grouping : Grouping := .category
  /-- The most rows of a summary; zero stands for all. -/
  limit : Nat := 10
  budgets : Budgets := .empty
  deriving DecidableEq

namespace Config

/-- Reads one setting into those read so far. -/
abbrev Setter := Config → Value → Option Config

/-- Reads a table of settings, or an array of them in order, which may break off. A moment is taken
for a table of unknown keys. -/
def readTable (fields : List (String × Setter)) (c : Config) (v : Value) : Option Config :=
  match v with
  | .table entries =>
    fields.foldlM (fun c field => (entries.lookup field.1).elim (some c) (field.2 c)) c
  | .array items => (fields.zip items).foldlM (fun c (field, item) => field.2 c item) c
  | .scalar (.moment _) => some c
  | .scalar _ => none

def text? : Value → Option String
  | .scalar (.string s) => some s
  | _ => none

def count? : Value → Option Nat
  | .scalar (.integer n) => if 0 ≤ n then some n.toNat else none
  | _ => none

def amount? : Value → Option Float
  | .scalar (.float x) => some x
  | .scalar (.integer n) => some (Binary64.nearest (n < 0) n.natAbs 1)
  | _ => none

def isHollow : Value → Bool
  | .table [] | .array [] => true
  | _ => false

/-- A name, or a table in which a name stands for nothing. -/
def grouping? : Value → Option Grouping
  | .scalar (.string name) => Grouping.ofName? name
  | .table [(name, v)] => if isHollow v then Grouping.ofName? name else none
  | _ => none

def budgets? : Value → Option Budgets
  | .table entries =>
    (entries.mapM fun entry => (amount? entry.2).map (entry.1, ·)).map Budgets.ofList
  | _ => none

def setDataFile : Setter := fun c v => (text? v).map ({ c with dataFile := · })

def setLogLevel : Setter := fun c v => (text? v).map ({ c with logLevel := · })

def setGrouping : Setter := fun c v => (grouping? v).map ({ c with grouping := · })

def setLimit : Setter := fun c v => (count? v).map ({ c with limit := · })

def setBudgets : Setter := fun c v => (budgets? v).map ({ c with budgets := · })

/-- The sections of the file. -/
def fields : List (String × Setter) :=
  [("data", readTable [("file", setDataFile)]),
    ("log", readTable [("level", setLogLevel)]),
    ("summary", readTable [("group_by", setGrouping), ("limit", setLimit)]),
    ("budgets", setBudgets)]

def ofEntries (entries : List (String × Value)) : Option Config :=
  readTable fields {} (.table entries)

def read? (text : String) : Option Config := (Toml.read? text).bind ofEntries

def sections (c : Config) : List Section :=
  [("data", [("file", .string c.dataFile)]),
    ("log", [("level", .string c.logLevel)]),
    ("summary", [("group_by", .string c.grouping.name), ("limit", .integer c.limit)]),
    ("budgets", c.budgets.entries.map fun entry => (entry.1, .float entry.2))]

def text (c : Config) : String := String.ofList (sectionsText c.sections)

/-- Writes the settings, which fails if the limit is too large for TOML. -/
def write? (c : Config) : Option String := (sectionsText? c.sections).map String.ofList

/-- The most rows of a summary, if a limit is set. -/
def rowLimit (limit : Nat) : Option Nat := if limit = 0 then none else some limit

example : (read? "[summary]\ngroup_by = \"day\"\n[budgets]\nA = 2\n").map (·.grouping) =
    some .day := by
  decide +kernel
example : (read? "log = ['debug', 1]\ndata = 2020-01-01\n").map (·.logLevel) = some "debug" := by
  decide +kernel
example : read? (text {}) = some {} := by decide +kernel

end Config

end Outlay
