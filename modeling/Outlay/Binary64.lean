/-!
Floats as exact numbers: a finite one is `mantissa * 2 ^ exponent` under a sign. `nearest` goes back
from a quotient of naturals to the float next to it, so reading, printing and rounding are exact
arithmetic on naturals, with one rounding at the end.
-/

namespace Outlay.Binary64

/-- The last bit of the exponent in a word; a mantissa has this bit too unless it is very small. -/
def unitBit : Nat := 4503599627370496

def signBit : Nat := 9223372036854775808

example : unitBit = 2 ^ 52 ∧ signBit = 2 ^ 63 := by decide

inductive Parts where
  | nan
  | infinite (negative : Bool)
  | finite (negative : Bool) (mantissa : Nat) (exponent : Int)
  deriving DecidableEq, Repr

/-- The word holds, from the top, a sign bit, 11 bits of exponent and 52 bits of mantissa. -/
def parts (x : Float) : Parts :=
  let word := x.toBits.toNat
  let negative : Bool := signBit ≤ word
  let scale : Nat := word / unitBit % 2048
  let fraction : Nat := word % unitBit
  if scale = 2047 then
    if fraction = 0 then .infinite negative else .nan
  else if scale = 0 then
    .finite negative fraction (-1074)
  else
    .finite negative (unitBit + fraction) ((scale : Int) - 1075)

/-- The whole number next to the quotient; a half goes to the even neighbour. -/
def divHalfEven (num den : Nat) : Nat :=
  let whole := num / den
  let rest := num % den
  if 2 * rest < den then whole
  else if den < 2 * rest then whole + 1
  else whole + whole % 2

/-- The exponent of the last binary place that a float near `num / den` keeps. -/
def lastPlace (num den : Nat) : Int :=
  let size : Int := num.log2 - den.log2
  let top := if den * Nat.pow 2 size.toNat ≤ num * Nat.pow 2 (-size).toNat then size else size - 1
  max (top - 52) (-1074)

/-- The word of the float next to `num / den`, without its sign. A mantissa that rounds up to
twice the unit bit carries into the exponent, and past the largest finite float lies infinity. -/
def magnitude (num den : Nat) : Nat :=
  if num = 0 then 0
  else
    let place := lastPlace num den
    let mantissa := divHalfEven (num * Nat.pow 2 (-place).toNat) (den * Nat.pow 2 place.toNat)
    min ((place + 1074).toNat * unitBit + mantissa) (2047 * unitBit)

def ofMagnitude (negative : Bool) (word : Nat) : Float :=
  Float.ofBits (UInt64.ofNat (if negative then signBit + word else word))

/-- The float next to `num / den`; of two equally near ones the even one. -/
def nearest (negative : Bool) (num den : Nat) : Float :=
  ofMagnitude negative (magnitude num den)

def infinity (negative : Bool) : Float := ofMagnitude negative (2047 * unitBit)

/-- The nearest whole number, a half going away from zero. -/
def roundHalfAway (x : Float) : Float :=
  match parts x with
  | .finite negative mantissa exponent =>
    if 0 ≤ exponent then x
    else
      let unit := Nat.pow 2 (-exponent).toNat
      nearest negative ((2 * mantissa + unit) / (2 * unit)) 1
  | _ => x

/-- The place of a float in the total order: `-0.0` comes before `0.0`, and what is not a number
after infinity. -/
def rank (x : Float) : Int :=
  let word : Int := x.toBits.toNat
  if word < signBit then word else signBit - 1 - word

example : nearest false 1 10 = 0.1 := by decide +kernel
example : nearest true 0 1 = -0.0 := by decide +kernel
example : nearest false 1 (2 ^ 1075) = 0.0 := by decide +kernel
example : nearest false (2 ^ 53 + 1) 1 = 9007199254740992.0 := by decide +kernel
example : roundHalfAway 2.5 = 3.0 ∧ roundHalfAway (-0.3) = -0.0 := by decide +kernel
example : rank (-0.0) < rank 0.0 ∧ rank (1.0 / 0.0) < rank (0.0 / 0.0) := by decide +kernel

end Outlay.Binary64
