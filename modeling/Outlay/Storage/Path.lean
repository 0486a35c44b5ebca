/-!
Paths: names between slashes. Empty names and `.` stay in place, `..` leads up.
-/

namespace Outlay.Storage.Path

/-- What stands between the slashes; the empty path has one empty piece. -/
def pieces (path : String) : List String :=
  (path.toList.foldr
    (fun c ps => if c = '/' then [] :: ps else (c :: ps.headD []) :: ps.tail) [[]]).map
    String.ofList

def isAbsolute (path : String) : Bool := path.toList.head? == some '/'

def stays (piece : String) : Bool := piece.isEmpty || piece == "."

/-- The name that a path ends in, unless that leads up. -/
def lastName? (path : String) : Option String :=
  ((pieces path).filter (!stays ·)).getLast?.filter (· != "..")

/-- What follows the last point of the name; a point that starts the name does not count. -/
def extension? (path : String) : Option String := do
  let backwards := (← lastName? path).toList.reverse
  match backwards.dropWhile (· != '.') with
  | '.' :: _ :: _ => some (String.ofList (backwards.takeWhile (· != '.')).reverse)
  | _ => none

/-- The path of a name inside a directory. -/
def inside (directory name : String) : String :=
  if directory.isEmpty || directory.toList.getLast? == some '/' then directory ++ name
  else directory ++ "/" ++ name

example : extension? "a.b/x.Json" = some "Json" ∧ extension? "x.json/." = some "json" := by
  decide +kernel
example : extension? "a/.json" = none ∧ extension? "..json" = some "json" := by decide +kernel
example : inside "" "x" = "x" ∧ inside "a/" "x" = "a/x" ∧ inside "a" "x" = "a/x" := by
  decide +kernel

end Outlay.Storage.Path
