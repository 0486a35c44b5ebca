import Outlay.Query.Operator
import Outlay.Text.Blank
import Outlay.Text.Lowercase

/-!
The units of a query, and their spelling in the query language.
-/

namespace Outlay.Query

inductive Token where
  /-- Constrains one attribute of a record. -/
  | filter (field : String) (op : Operator) (value : String)
  /-- A word looked for in description and category. -/
  | text (value : String)
  deriving DecidableEq, Repr

namespace Token

/-- A filter on a field whose name may be in capitals. -/
def onField (field : String) (op : Operator) (value : String) : Token :=
  .filter (Text.lowercased field) op value

def value : Token → String
  | filter _ _ value => value
  | text value => value

/-- An empty value and one with blanks in it stand between quotes. -/
def needsQuotes (value : String) : Bool := value.isEmpty || value.toList.any Text.isBlank

def spellValue (value : String) : String :=
  if needsQuotes value then "\"" ++ value ++ "\"" else value

def spell : Token → String
  | filter field .contains value => field ++ " contains \"" ++ value ++ "\""
  | filter field op value => field ++ op.symbol ++ spellValue value
  | text value => spellValue value

end Token

end Outlay.Query
