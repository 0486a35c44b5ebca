/-!
What an operation has to report besides its answer.
-/

namespace Outlay

inductive ExportFormat where
  | csv
  | json
  deriving DecidableEq, Repr

def ExportFormat.name : ExportFormat → String
  | .csv => "Csv"
  | .json => "Json"

inductive Level where
  | debug
  | info
  | warn
  deriving DecidableEq, Repr

def Level.name : Level → String
  | .debug => "DEBUG"
  | .info => "INFO"
  | .warn => "WARN"

inductive Event where
  | filtered (query : String) (tokens total matched : Nat)
  | negativeAmount (row : Nat) (amount : Float)
  | unreadableAmount (row : Nat) (raw : String)
  | unreadableTimestamp (row : Nat) (raw : String)
  | loaded (path : String) (format : ExportFormat) (count : Nat)
  deriving DecidableEq

def Event.level : Event → Level
  | .filtered .. => .debug
  | .loaded .. => .info
  | _ => .warn

def Event.message : Event → String
  | .filtered .. => "filtered transactions"
  | .negativeAmount .. => "skipping row with negative amount"
  | .unreadableAmount .. => "skipping row with unreadable amount"
  | .unreadableTimestamp .. => "skipping row with unreadable timestamp"
  | .loaded .. => "loaded transactions"

end Outlay
