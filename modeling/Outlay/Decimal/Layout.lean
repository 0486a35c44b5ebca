import Outlay.Decimal.Shortest

/-!
Texts of floats. The shortest digits are laid out with a point, and for sizes outside a given range
with a power of ten; amounts in reports have a fixed count of places instead.
-/

namespace Outlay.Decimal

/-- How the shortest digits of a float are written. -/
structure Layout where
  /-- Powers of ten of the leading digit that are written with the point in place. -/
  plain : Int → Bool
  /-- Of two shortest decimals that are equally near the larger one is written, not the even one. -/
  tiesUp : Bool

def zeros (n : Nat) : List Char := List.replicate n '0'

/-- `digits * 10 ^ exponent` with a digit on both sides of the point. -/
def pointed (digits : List Char) (exponent : Int) : List Char :=
  let whole := digits.length + exponent
  if 0 ≤ exponent then digits ++ zeros exponent.toNat ++ ['.', '0']
  else if 0 < whole then digits.take whole.toNat ++ '.' :: digits.drop whole.toNat
  else '0' :: '.' :: zeros (-whole).toNat ++ digits

/-- One digit before the point, which is left out with nothing after it, then the power of ten with
its sign. -/
def powered (digits : List Char) (power : Int) : List Char :=
  let fraction := digits.drop 1
  let point := if fraction.isEmpty then [] else '.' :: fraction
  digits.take 1 ++ point ++ 'e' :: (if power < 0 then '-' else '+') ::
    Nat.toDigits 10 power.natAbs

def signed (negative : Bool) (s : List Char) : List Char :=
  if negative then '-' :: s else s

def intText (n : Int) : List Char := signed (n < 0) (Nat.toDigits 10 n.natAbs)

/-- The text of a finite float. -/
def Layout.finite (layout : Layout) (negative : Bool) (mantissa : Nat) (exponent : Int) :
    List Char :=
  let (n, place) := shortest layout.tiesUp mantissa exponent
  let digits := Nat.toDigits 10 n
  let power : Int := digits.length - 1 + place
  signed negative (if layout.plain power then pointed digits place else powered digits power)

/-- The whole number next to `mantissa * 2 ^ exponent * 10 ^ places`, a half going to the even
neighbour. -/
def scaled (mantissa : Nat) (exponent : Int) (places : Nat) : Nat :=
  Binary64.divHalfEven (mantissa * Nat.pow 2 exponent.toNat * Nat.pow 10 places)
    (Nat.pow 2 (-exponent).toNat)

/-- A text with a fixed count of places after the point, at least one. -/
def fixedFinite (places : Nat) (mantissa : Nat) (exponent : Int) : List Char :=
  let digits := Nat.toDigits 10 (scaled mantissa exponent places)
  let digits := zeros (places + 1 - digits.length) ++ digits
  digits.take (digits.length - places) ++ '.' :: digits.drop (digits.length - places)

/-- Fixed places; the sign is written for negative numbers, and for the others if `plus` is set. -/
def fixed (places : Nat) (plus : Bool) (x : Float) : String :=
  let sign (negative : Bool) := if negative then "-" else if plus then "+" else ""
  match Binary64.parts x with
  | .nan => "NaN"
  | .infinite negative => sign negative ++ "inf"
  | .finite negative mantissa exponent =>
    sign negative ++ String.ofList (fixedFinite places mantissa exponent)

example : fixed 2 false 0.125 = "0.12" ∧ fixed 2 false 0.375 = "0.38" := by decide +kernel
example : fixed 1 true (-59.86) = "-59.9" ∧ fixed 2 true 0.0 = "+0.00" := by decide +kernel
example : fixed 2 false 1050.0 = "1050.00" := by decide +kernel

end Outlay.Decimal
