import Outlay.Decimal

/-!
Amounts of money. An amount is a float, and one that is no number has a sign besides: it says at
which end of the order of amounts it stands, and a float does not tell it. The payload that a word of
no number has too is not kept, so amounts that differ by it alone are one. Main statement: an amount
that is a number is given by its float alone (`eq_ofFloat`).
-/

namespace Outlay

structure Amount where
  value : Float
  /-- The sign of what is no number. A number has its sign in the value. -/
  negative : Bool
  isNaN_of_negative : negative = true → value.isNaN = true
  deriving DecidableEq

namespace Amount

def ofSigned (value : Float) (negative : Bool) : Amount where
  value := value
  negative := negative && value.isNaN
  isNaN_of_negative h := (Bool.and_eq_true_iff.mp h).2

def ofFloat (value : Float) : Amount := ofSigned value false

/-- Reads an amount; what is no number may have a minus too. -/
def read? (s : List Char) : Option Amount :=
  (readFloat? s).map fun value => ofSigned value (Decimal.sign s).1

/-- The sum, rounded. What is no number hands its sign on, the first summand before the second, and
two infinities that cancel leave a negative one. -/
def add (a b : Amount) : Amount :=
  ofSigned (a.value + b.value)
    (if a.value.isNaN then a.negative else if b.value.isNaN then b.negative else true)

instance : Add Amount := ⟨add⟩

/-- The place of an amount among others: first what is no number and negative, then the numbers, of
which `-0.0` comes before `0.0`, and last what is no number and not negative. -/
def rank (a : Amount) : Int :=
  if a.negative then -2 * Binary64.signBit else Binary64.rank a.value

@[simp] theorem value_ofFloat (x : Float) : (ofFloat x).value = x := rfl

@[simp] theorem value_add (a b : Amount) : (a + b).value = a.value + b.value := rfl

theorem negative_eq_false {a : Amount} (h : a.value.isNaN = false) : a.negative = false := by
  cases hn : a.negative with
  | false => rfl
  | true => exact absurd (h.symm.trans (a.isNaN_of_negative hn)) Bool.false_ne_true

theorem eq_ofFloat {a : Amount} (h : a.value.isNaN = false) : a = ofFloat a.value := by
  have hn := negative_eq_false h
  obtain ⟨value, negative, _⟩ := a
  subst hn
  rfl

example : ((read? "-nan".toList).map (·.negative)) = some true := by decide +kernel
example : ((read? "-5".toList).map (·.negative)) = some false := by decide +kernel
example : (ofFloat (1.0 / 0.0) + ofFloat (-1.0 / 0.0)).negative = true := by decide +kernel

end Amount

end Outlay
