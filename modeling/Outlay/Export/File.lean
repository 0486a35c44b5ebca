import Outlay.Cause
import Outlay.Export.Listing
import Outlay.Export.Table
import Outlay.Storage.Disk
import Outlay.Storage.Path

/-!
Exports in files. The name of the file tells which of the two formats it is in.
-/

namespace Outlay

open Storage

/-- JSON by the extension `json` in any case; everything else is a table. -/
def ExportFormat.ofPath (path : String) : ExportFormat :=
  if (Path.extension? path).any fun e => e.toList.map Char.toLower == "json".toList then .json
  else .csv

namespace Export

/-- Why a file gives no records. -/
inductive FileError where
  | notOpened
  /-- What was opened cannot be read as a file. -/
  | notReadable
  /-- There is no file with a text in it. -/
  | noText
  | table (e : TableError)
  | listing (p : Json.Problem)
  deriving DecidableEq

/-- The reasons, from the outside in. -/
def FileError.causes (path : String) : FileError → List Cause
  | notOpened => [.stated ("opening " ++ path), .foreign]
  | noText => [.stated ("reading " ++ path), .foreign]
  | notReadable | table .notText => [.stated ("parsing " ++ path), .foreign]
  | table (.missing column) =>
    [.stated ("parsing " ++ path), .stated (TableError.missingMessage column)]
  | listing _ =>
    [.stated ("parsing " ++ path), .stated "expected an array of transactions", .foreign]

def readTableFile (entry : Entry) : Except FileError Import :=
  match entry with
  | .absent => .error .notOpened
  | .directory => .error .notReadable
  | .file content => (readTable content).mapError .table

def readListingFile (entry : Entry) : Except FileError Import :=
  match entry.text? with
  | none => .error .noText
  | some text => (readListing text).mapError .listing

def readFile (format : ExportFormat) (entry : Entry) : Except FileError Import :=
  match format with
  | .csv => readTableFile entry
  | .json => readListingFile entry

/-- The records of a file at a path. -/
def load (path : String) (entry : Entry) : Except FileError Import := do
  let format := ExportFormat.ofPath path
  let found ← readFile format entry
  return { found with events := found.events ++ [.loaded path format found.records.length] }

end Export

end Outlay
