import Outlay.Csv
import Outlay.Export.Row

/-!
Exports that are tables. The first line names the columns, in any order and any case; description,
amount and timestamp have to be there. What a row lacks at its end counts as empty.
-/

namespace Outlay.Export

inductive TableError where
  /-- A line is not text. -/
  | notText
  | missing (column : String)
  deriving DecidableEq, Repr

def TableError.missingMessage (column : String) : String := "missing '" ++ column ++ "' column"

/-- The place of each column in a line. -/
structure Columns where
  id : Option Nat
  description : Nat
  amount : Nat
  category : Option Nat
  timestamp : Nat
  deriving DecidableEq, Repr

/-- Names are compared without regard to ASCII case and to blanks around them. -/
def isNamed (header name : String) : Bool :=
  (Text.trim header.toList).map Char.toLower == name.toList

/-- The first column that has one of the names. -/
def column? (header names : List String) : Option Nat :=
  header.findIdx? fun h => names.any (isNamed h)

def needColumn (header names : List String) (title : String) : Except TableError Nat :=
  match column? header names with
  | some place => .ok place
  | none => .error (.missing title)

def Columns.ofHeader (header : List String) : Except TableError Columns := do
  let description ← needColumn header ["description"] "description"
  let amount ← needColumn header ["amount"] "amount"
  let timestamp ← needColumn header ["timestamp", "date"] "timestamp"
  return { id := column? header ["id"], description, amount,
           category := column? header ["category"], timestamp }

def cell (record : List String) (place : Nat) : String := record.getD place ""

/-- A whole number of 64 bits, with or without a sign. -/
def readId? (raw : String) : Option Int64 :=
  let (negative, digits) := Decimal.sign (Text.trim raw.toList)
  if digits.isEmpty || !digits.all Char.isDigit then none
  else
    let size : Int := Nat.ofDigitChars 10 digits 0
    let n := if negative then -size else size
    if isInt64 n then some (Int64.ofInt n) else none

def Columns.row (columns : Columns) (record : List String) : RawRow where
  id := columns.id.bind fun place => readId? (cell record place)
  description := cell record columns.description
  amountText := cell record columns.amount
  category := columns.category.map (cell record)
  timestamp := cell record columns.timestamp

/-- Nothing but blanks in any cell. -/
def isBlankRecord (record : List String) : Bool := record.all Text.isBlankText

/-- The rows with their positions. A blank line yields none but has a position. -/
def Columns.rows (columns : Columns) (records : List (List String)) : List (RawRow × Nat) :=
  ((records.zipIdx 1).filter (!isBlankRecord ·.1)).map fun (record, position) =>
    (columns.row record, position)

def decodeRecord (record : List Bytes) : Except TableError (List String) :=
  match record.mapM Bytes.text? with
  | some fields => .ok fields
  | none => .error .notText

/-- The header of a table without lines has no columns. -/
def ofTable (table : List (List Bytes)) : Except TableError Import := do
  let header ← decodeRecord (table.headD [])
  let columns ← Columns.ofHeader header
  let records ← (table.drop 1).mapM decodeRecord
  return Import.ofRows (columns.rows records)

/-- Reads a table from the bytes of a file. -/
def readTable (file : Bytes) : Except TableError Import := ofTable (Csv.ofFile file)

end Outlay.Export
