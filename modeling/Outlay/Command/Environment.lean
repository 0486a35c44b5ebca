import Outlay.Cause
import Outlay.Storage.Path
import Outlay.Text.Blank

/-!
Where the configuration lies.
-/

namespace Outlay.Command

structure Environment where
  /-- The directory of the program, unless it is blank. -/
  directory : Option String := none
  /-- The directory of the user. -/
  home : Option String := none
  deriving DecidableEq, Repr

namespace Environment

def noHome : List Cause := [.stated "HOME is not set", .foreign]

def directory? (e : Environment) : Except (List Cause) String :=
  match e.directory.filter (!Text.isBlankText ·), e.home with
  | some directory, _ => .ok directory
  | none, some home => .ok (Storage.Path.inside home ".spendlens")
  | none, none => .error noHome

end Environment

def configPath (directory : String) : String := Storage.Path.inside directory "config.toml"

end Outlay.Command
