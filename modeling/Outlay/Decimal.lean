import Outlay.Binary64

/-!
Decimal numbers and the texts that floats are read from: an optional sign, digits with an optional
point among them, an optional power of ten, or one of the names of the special values.
-/

namespace Outlay

/-- The whole numbers of 64 bits. -/
def isInt64 (n : Int) : Bool := Int64.minValue.toInt ≤ n && n ≤ Int64.maxValue.toInt

/-- The number `digits * 10 ^ exponent` under a sign; zero has a sign too. -/
structure Decimal where
  negative : Bool
  digits : Nat
  exponent : Int
  deriving DecidableEq, Repr

namespace Decimal

/-- The nearest float. Numbers far beyond the largest and below the least float are not computed. -/
def toFloat (d : Decimal) : Float :=
  if d.digits = 0 then Binary64.nearest d.negative 0 1
  else if 310 ≤ d.exponent then Binary64.infinity d.negative
  else if d.exponent < -(400 + d.digits.log2 : Int) then Binary64.nearest d.negative 0 1
  else
    Binary64.nearest d.negative (d.digits * Nat.pow 10 d.exponent.toNat)
      (Nat.pow 10 (-d.exponent).toNat)

/-- The number written by digits before and after a point, times a power of ten. -/
def ofPlaces (negative : Bool) (whole fraction : List Char) (power : Int) : Decimal where
  negative := negative
  digits := Nat.ofDigitChars 10 (whole ++ fraction) 0
  exponent := power - fraction.length

/-- Splits a sign off. -/
def sign (s : List Char) : Bool × List Char :=
  match s with
  | '-' :: rest => (true, rest)
  | '+' :: rest => (false, rest)
  | _ => (false, s)

def power? (s : List Char) : Option Int :=
  let (negative, digits) := sign s
  if digits.isEmpty || !digits.all Char.isDigit then none
  else
    let n : Int := Nat.ofDigitChars 10 digits 0
    some (if negative then -n else n)

/-- What may follow the digits: nothing, or `e` and a power. -/
def tail? (s : List Char) : Option Int :=
  match s with
  | [] => some 0
  | c :: rest => if c = 'e' ∨ c = 'E' then power? rest else none

/-- At least one digit, before or after the point. -/
def places? (negative : Bool) (s : List Char) : Option Decimal :=
  let whole := s.takeWhile Char.isDigit
  match s.dropWhile Char.isDigit with
  | '.' :: rest =>
    let fraction := rest.takeWhile Char.isDigit
    if whole.isEmpty && fraction.isEmpty then none
    else (tail? (rest.dropWhile Char.isDigit)).map (ofPlaces negative whole fraction)
  | rest => if whole.isEmpty then none else (tail? rest).map (ofPlaces negative whole [])

end Decimal

/-- Reads a float; no blank is allowed anywhere, and names may be in capitals. -/
def readFloat? (s : List Char) : Option Float :=
  let (negative, rest) := Decimal.sign s
  let name := String.ofList (rest.map Char.toLower)
  if name = "inf" ∨ name = "infinity" then some (Binary64.infinity negative)
  else if name = "nan" then some (0.0 / 0.0)
  else (Decimal.places? negative rest).map Decimal.toFloat

example : readFloat? "5.50".toList = some 5.5 := by decide +kernel
example : readFloat? "-.5e1".toList = some (-5.0) := by decide +kernel
example : readFloat? "1.".toList = some 1.0 := by decide +kernel
example : readFloat? ".".toList = none ∧ readFloat? "1e".toList = none := by decide +kernel

end Outlay
