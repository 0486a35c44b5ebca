import Outlay.Decimal

/-!
The fewest digits that name a float: a decimal is read back as the float if it lies in the interval
of numbers that round to it, and of those decimals the shortest is wanted, then the nearest. Of two that
are equally near either the even or the larger one is taken.
-/

namespace Outlay.Decimal

/-- A float's interval on the grid of multiples of `10 ^ place`, all three numbers brought to whole
multiples of one unit, of which the grid has `step`. -/
structure Grid where
  low : Nat
  value : Nat
  high : Nat
  step : Nat
  /-- The two ends belong to the interval. -/
  closed : Bool

/-- Below a power of two the neighbours of a float lie twice as close. -/
def Grid.of (mantissa : Nat) (exponent : Int) (place : Int) : Grid :=
  let scale := Nat.pow 2 (exponent - 2).toNat * Nat.pow 10 (-place).toNat
  let below := if mantissa = Binary64.unitBit ∧ -1074 < exponent then 1 else 2
  { low := (4 * mantissa - below) * scale
    value := 4 * mantissa * scale
    high := (4 * mantissa + 2) * scale
    step := Nat.pow 2 (2 - exponent).toNat * Nat.pow 10 place.toNat
    closed := mantissa % 2 = 0 }

def Grid.contains (g : Grid) (n : Nat) : Bool :=
  (g.low < n * g.step && n * g.step < g.high) ||
    (g.closed && (n * g.step == g.low || n * g.step == g.high))

/-- The grid point inside the interval that is nearest to the value; of two the larger one, or the
even one. -/
def Grid.nearest? (g : Grid) (tiesUp : Bool) : Option Nat :=
  let down := g.value / g.step
  let up := down + 1
  match g.contains down, g.contains up with
  | true, true =>
    let before := g.value - down * g.step
    let after := up * g.step - g.value
    some (if before < after then down
      else if after < before || tiesUp then up
      else down + down % 2)
  | true, false => some down
  | false, true => some up
  | false, false => none

/-- Tries ever finer grids, and at last writes the number out exactly. -/
def search (tiesUp : Bool) (mantissa : Nat) (exponent : Int) : Nat → Int → Nat × Int
  | 0, _ => (mantissa * Nat.pow 2 exponent.toNat * Nat.pow 5 (-exponent).toNat, min exponent 0)
  | tries + 1, place =>
    match (Grid.of mantissa exponent place).nearest? tiesUp with
    | some n => (n, place)
    | none => search tiesUp mantissa exponent tries (place - 1)

/-- Digits and exponent of the shortest decimal of `mantissa * 2 ^ exponent`. The first grid is
coarser than the number itself. -/
def shortest (tiesUp : Bool) (mantissa : Nat) (exponent : Int) : Nat × Int :=
  if mantissa = 0 then (0, 0)
  else
    let top := (mantissa.log2 + 1 + exponent) * 30103 / 100000 + 1
    search tiesUp mantissa exponent 24 top

example : shortest false (2 ^ 52 + 2702159776422298) (-56) = (1, -1) := by decide +kernel
example : shortest false 1 (-1074) = (5, -324) := by decide +kernel
example : shortest false (2 ^ 53 - 1) 971 = (17976931348623157, 292) := by decide +kernel
example : (shortest false (2 ^ 52) (-77)).1 = 29802322387695312 := by decide +kernel
example : (shortest true (2 ^ 52) (-77)).1 = 29802322387695313 := by decide +kernel

end Outlay.Decimal
