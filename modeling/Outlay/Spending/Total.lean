import Outlay.Binary64
import Outlay.Transaction

/-!
Sums of amounts. They are added from left to right, each sum being rounded, so a total depends on
the order of the records.
-/

namespace Outlay.Spending

/-- The empty total is `-0.0`, to which every amount adds up to itself. -/
def total (records : List Transaction) : Float :=
  records.foldl (fun sum t => sum + t.amount.value) (-0.0)

/-- Rounds to one decimal place. -/
def toTenths (x : Float) : Float := Binary64.roundHalfAway (x * 10.0) / 10.0

end Outlay.Spending
