import Outlay.Decimal
import Outlay.Text.Blank

/-!
Amounts as exports write them: a minus, a dollar sign and blanks may come first, and commas may
stand anywhere behind the first digit of the whole part.
-/

namespace Outlay.Export

open Text

/-- The digits before and after the point, commas left out. -/
def amountPlaces? (s : List Char) : Option (List Char × List Char) :=
  match s with
  | '.' :: fraction =>
    if !fraction.isEmpty && fraction.all Char.isDigit then some ([], fraction) else none
  | first :: rest =>
    if !first.isDigit then none
    else
      let whole := first :: (rest.takeWhile fun c => c.isDigit || c == ',').filter Char.isDigit
      match rest.dropWhile fun c => c.isDigit || c == ',' with
      | [] => some (whole, [])
      | '.' :: fraction =>
        if !fraction.isEmpty && fraction.all Char.isDigit then some (whole, fraction) else none
      | _ => none
  | [] => none

def dropDollar (s : List Char) : List Char :=
  match s with
  | '$' :: rest => rest
  | _ => s

def readAmountChars? (s : List Char) : Option Float :=
  let (negative, rest) :=
    match s with
    | '-' :: rest => (true, rest)
    | _ => (false, s)
  let number := (dropDollar (rest.dropWhile isBlank)).dropWhile isBlank
  (amountPlaces? number).map fun (whole, fraction) =>
    (Decimal.ofPlaces negative whole fraction 0).toFloat

def readAmount? (raw : String) : Option Float := readAmountChars? (trim raw.toList)

example : readAmount? " - $ 1,,234,.50 " = some (-1234.5) := by decide +kernel
example : readAmount? "5." = none ∧ readAmount? "$-5" = none ∧ readAmount? "" = none := by
  decide +kernel

end Outlay.Export
