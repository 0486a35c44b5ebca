import Outlay.Cause
import Outlay.Storage.Disk

/-!
Programs print piece by piece and may break off at any step. What has been printed by then stays
printed, and what has been done to files stays done.
-/

namespace Outlay.Command

open Storage

/-- How a run ends. -/
inductive Ending where
  | done
  /-- The causes from the outside in. -/
  | failed (causes : List Cause)
  /-- The arguments do not follow the rules. -/
  | misused
  deriving DecidableEq

namespace Ending

def exitCode : Ending → Nat
  | done => 0
  | failed _ => 1
  | misused => 2

def causes : Ending → List Cause
  | failed causes => causes
  | _ => []

def ofResult : Except (List Cause) Unit → Ending
  | .ok _ => done
  | .error causes => failed causes

end Ending

structure Outcome where
  /-- All that has been printed, however the run ends. -/
  output : String
  ending : Ending
  deriving DecidableEq

namespace Outcome

def printed (output : String) : Outcome := ⟨output, .done⟩

def exitCode (o : Outcome) : Nat := o.ending.exitCode

def causes (o : Outcome) : List Cause := o.ending.causes

end Outcome

abbrev Program (m : Type → Type) := ExceptT (List Cause) (StateT String m)

namespace Program

variable {m : Type → Type} [Monad m]

instance [Access m] : Access (Program m) where
  look path := liftM (Access.look path : m Entry)
  makeDirectory path := liftM (Access.makeDirectory path : m Bool)
  write path content := liftM (Access.write path content : m Bool)

def print (text : String) : Program m Unit := modify (· ++ text)

def outcome (p : Program m Unit) : m Outcome := do
  let (result, output) ← p.run.run ""
  return ⟨output, .ofResult result⟩

end Program

end Outlay.Command
