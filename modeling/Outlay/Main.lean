import Outlay.Command.Run

/-!
The program on the files of the machine.
-/

namespace Outlay.Command

open Storage

instance : Access IO where
  look path := do
    if path.isEmpty then return .absent
    let place := (← IO.currentDir) / path
    if ← place.isDir then return .directory
    match ← (IO.FS.readBinFile place).toBaseIO with
    | .ok content => return .file content.data.toList
    | .error _ => return .absent
  makeDirectory path := do
    let place := (← IO.currentDir) / path
    match ← (IO.FS.createDirAll place).toBaseIO with
    | .ok _ => return true
    | .error _ => return false
  write path content := do
    let place := (← IO.currentDir) / path
    match ← (IO.FS.writeFile place content).toBaseIO with
    | .ok _ => return true
    | .error _ => return false

def causeText : Cause → String
  | .stated text => text
  | .foreign => "the system or the format does not allow it"

/-- The first cause is the failure itself, and the others explain it. -/
def failureText : List Cause → String
  | [] => ""
  | cause :: others =>
    "Error: " ++ causeText cause ++ "\n" ++
      (if others.isEmpty then "" else
        "\nCaused by:\n" ++ String.join (others.map fun c => "    " ++ causeText c ++ "\n"))

/-- Standard error takes what is no answer. -/
def Ending.remark : Ending → String
  | done => ""
  | failed causes => failureText causes
  | misused => "error: the arguments do not follow the rules; see --help\n"

end Outlay.Command

open Outlay.Command in
def main (args : List String) : IO UInt32 := do
  let e : Environment :=
    { directory := ← IO.getEnv "SPENDLENS_HOME", home := ← IO.getEnv "HOME" }
  let outcome ← (run e args : IO Outcome)
  IO.print outcome.output
  IO.eprint outcome.ending.remark
  return UInt32.ofNat outcome.exitCode
