import Outlay.Amount
import Outlay.Calendar.Timestamp

/-!
The records that everything else is about: one expense each.
-/

namespace Outlay

open Calendar

structure Transaction where
  id : Int64
  description : String
  amount : Amount
  category : String
  timestamp : Timestamp
  deriving DecidableEq

def Transaction.day (t : Transaction) : Day := t.timestamp.day

end Outlay
