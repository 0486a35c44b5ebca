/-!
What a failure is put down to. A failure is told as a list of causes, from the outside in.
-/

namespace Outlay

inductive Cause where
  | stated (text : String)
  /-- Something that the system or the reader of a format says in its own words. -/
  | foreign
  deriving DecidableEq, Repr

end Outlay
