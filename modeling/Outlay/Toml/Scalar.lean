import Outlay.Calendar.Day
import Outlay.Decimal.Layout
import Outlay.Toml.Quoted

/-!
Single values of TOML. All but strings are words without blanks; only between a date and a time may
a blank stand.
-/

namespace Outlay.Toml

inductive Scalar where
  | string (s : String)
  | integer (n : Int)
  | float (x : Float)
  | bool (b : Bool)
  /-- A date, a time, or both, as they are written. -/
  | moment (text : String)
  deriving DecidableEq

/-- Digits without the underscores, of which one may stand between any two digits. -/
def ungrouped? (isDigit : Char → Bool) : List Char → Option (List Char)
  | [] => none
  | [c] => if isDigit c then some [c] else none
  | c :: '_' :: rest => if isDigit c then (ungrouped? isDigit rest).map (c :: ·) else none
  | c :: rest => if isDigit c then (ungrouped? isDigit rest).map (c :: ·) else none

/-- A sign and digits, the first of which is not a zero unless it stands alone. -/
def wholePart? (s : List Char) : Option (Bool × List Char) := do
  let (negative, rest) := Decimal.sign s
  match ← ungrouped? Char.isDigit rest with
  | '0' :: _ :: _ => none
  | digits => some (negative, digits)

/-- Integers have 64 bits. -/
def inRange? (n : Int) : Option Int := if isInt64 n then some n else none

def integer? (s : List Char) : Option Int := do
  match s with
  | '0' :: 'x' :: rest =>
    inRange? (← hexNumber? (← ungrouped? (fun c => (hexDigit? c).isSome) rest))
  | '0' :: 'o' :: rest =>
    inRange? (Nat.ofDigitChars 8 (← ungrouped? (fun c => '0' ≤ c && c ≤ '7') rest) 0)
  | '0' :: 'b' :: rest =>
    inRange? (Nat.ofDigitChars 2 (← ungrouped? (fun c => c == '0' || c == '1') rest) 0)
  | _ =>
    let (negative, digits) ← wholePart? s
    let n : Int := Nat.ofDigitChars 10 digits 0
    inRange? (if negative then -n else n)

def isPowerMark (c : Char) : Bool := c == 'e' || c == 'E'

def power? (s : List Char) : Option Int := do
  let (negative, rest) := Decimal.sign s
  let n : Int := Nat.ofDigitChars 10 (← ungrouped? Char.isDigit rest) 0
  return if negative then -n else n

/-- A number with a fraction, a power of ten, or both. -/
def decimal? (s : List Char) : Option Decimal := do
  let mantissa := s.takeWhile (!isPowerMark ·)
  let (negative, whole) ← wholePart? (mantissa.takeWhile (· != '.'))
  match mantissa.dropWhile (· != '.'), s.dropWhile (!isPowerMark ·) with
  | [], [] => none
  | [], _ :: power => return .ofPlaces negative whole [] (← power? power)
  | _ :: fraction, [] => return .ofPlaces negative whole (← ungrouped? Char.isDigit fraction) 0
  | _ :: fraction, _ :: power =>
    return .ofPlaces negative whole (← ungrouped? Char.isDigit fraction) (← power? power)

def named? (s : List Char) : Option Float :=
  let (negative, rest) := Decimal.sign s
  if rest = "inf".toList then some (Binary64.infinity negative)
  else if rest = "nan".toList then some (0.0 / 0.0)
  else none

/-- Numbers too large for a float are refused, those too small are not. -/
def float? (s : List Char) : Option Float :=
  (named? s).or (((decimal? s).map Decimal.toFloat).filter fun x => x < 1.0 / 0.0)

/-- Two digits that write a number up to `most`. -/
def isPair (most : Nat) (a b : Char) : Bool :=
  a.isDigit && b.isDigit && Nat.ofDigitChars 10 [a, b] 0 ≤ most

/-- What follows a date at the front. -/
def afterDate? (s : List Char) : Option (List Char) :=
  match s with
  | a :: b :: c :: d :: '-' :: e :: f :: '-' :: g :: h :: rest =>
    let number (digits : List Char) : Nat := Nat.ofDigitChars 10 digits 0
    if [a, b, c, d, e, f, g, h].all Char.isDigit &&
        decide (Calendar.IsDate (number [a, b, c, d]) (number [e, f]) (number [g, h]))
    then some rest else none
  | _ => none

/-- What follows a time at the front. -/
def afterTime? (s : List Char) : Option (List Char) :=
  match s with
  | a :: b :: ':' :: c :: d :: ':' :: e :: f :: rest =>
    if isPair 23 a b && isPair 59 c d && isPair 60 e f then
      match rest with
      | '.' :: g :: rest => if g.isDigit then some (rest.dropWhile Char.isDigit) else none
      | _ => some rest
    else none
  | _ => none

/-- The difference to universal time, which may be missing. -/
def isOffset (s : List Char) : Bool :=
  match s with
  | [] | ['Z'] | ['z'] => true
  | [sign, a, b, ':', c, d] => (sign == '+' || sign == '-') && isPair 23 a b && isPair 59 c d
  | _ => false

def isMoment (s : List Char) : Bool :=
  match afterDate? s with
  | some [] => true
  | some (c :: rest) =>
    (c == 'T' || c == 't' || c == ' ') && (afterTime? rest).any isOffset
  | none => afterTime? s == some []

namespace Scalar

def ofWord? (s : List Char) : Option Scalar :=
  if s = "true".toList then some (bool true)
  else if s = "false".toList then some (bool false)
  else if isMoment s then some (moment (String.ofList s))
  else ((integer? s).map integer).or ((float? s).map float)

def isWordChar (c : Char) : Bool :=
  c.isAlphanum || c == '_' || c == '+' || c == '-' || c == '.' || c == ':'

/-- A word, together with a time if it is a date. -/
def readWord (s : List Char) : Scan Scalar :=
  let word := s.takeWhile isWordChar
  let after := s.dropWhile isWordChar
  let one := (ofWord? word).map (·, after)
  match after with
  | ' ' :: rest =>
    let both := word ++ ' ' :: rest.takeWhile isWordChar
    if isMoment both then some (moment (String.ofList both), rest.dropWhile isWordChar) else one
  | _ => one

def read (s : List Char) : Scan Scalar :=
  match s with
  | '"' :: _ | '\'' :: _ =>
    (readQuoted s).map fun (text, after) => (string (String.ofList text), after)
  | _ => readWord s

/-- Floats are written out in full, with a digit on both sides of the point. -/
def floatLayout : Decimal.Layout where
  plain _ := true
  tiesUp := true

def floatText (x : Float) : List Char :=
  match Binary64.parts x with
  | .nan => "nan".toList
  | .infinite negative => Decimal.signed negative "inf".toList
  | .finite negative mantissa exponent => floatLayout.finite negative mantissa exponent

def text : Scalar → List Char
  | string s => quotedText s.toList
  | integer n => Decimal.intText n
  | float x => floatText x
  | bool b => (if b then "true" else "false").toList
  | moment text => text.toList

/-- Integers of more than 64 bits are not written. -/
def fits : Scalar → Bool
  | integer n => isInt64 n
  | _ => true

end Scalar

example : integer? "1_000".toList = some 1000 ∧ integer? "0x_f".toList = none := by decide +kernel
example : integer? "-0".toList = some 0 ∧ integer? "01".toList = none := by decide +kernel
example : float? "+6.5e1_0".toList = some 6.5e10 ∧ float? "1.".toList = none := by decide +kernel
example : float? "1e400".toList = none ∧ float? "-1e400".toList = some (-1.0 / 0.0) := by
  decide +kernel
example : isMoment "1979-05-27 07:32:00.99-07:00".toList = true := by decide +kernel
example : isMoment "07:32:60".toList = true ∧ isMoment "1979-02-29".toList = false := by
  decide +kernel
example : Scalar.floatText 1e21 = "1000000000000000000000.0".toList := by decide +kernel
example : Scalar.floatText 1.5e-7 = "0.00000015".toList := by decide +kernel

end Outlay.Toml
