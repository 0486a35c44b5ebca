/-!
The operators of a field filter and their meaning on numbers and on texts.
-/

namespace Outlay.Query

inductive Operator where
  | equal
  | notEqual
  | greater
  | atLeast
  | less
  | atMost
  /-- Has no sign in a query; only tokens that are built by hand carry it. -/
  | contains
  deriving DecidableEq, Repr

namespace Operator

def symbol : Operator → String
  | equal => "="
  | notEqual => "!="
  | greater => ">"
  | atLeast => ">="
  | less => "<"
  | atMost => "<="
  | contains => "contains"

/-- The operators in the order in which names for them are listed. -/
def all : List Operator := [equal, notEqual, greater, atLeast, less, atMost, contains]

/-- Splits the longest operator sign off the front. -/
def split? : List Char → Option (Operator × List Char)
  | '>' :: '=' :: rest => some (atLeast, rest)
  | '<' :: '=' :: rest => some (atMost, rest)
  | '!' :: '=' :: rest => some (notEqual, rest)
  | '=' :: rest => some (equal, rest)
  | '>' :: rest => some (greater, rest)
  | '<' :: rest => some (less, rest)
  | _ => none

theorem eq_append_of_split? {s rest : List Char} {op : Operator} (h : split? s = some (op, rest)) :
    s = op.symbol.toList ++ rest := by
  unfold split? at h
  split at h <;> simp at h <;> obtain ⟨rfl, rfl⟩ := h <;> rfl

/-- Compares two numbers; containment says nothing about them. -/
def compare? (op : Operator) (x y : Float) : Option Bool :=
  match op with
  | equal => some (x == y)
  | notEqual => some (x != y)
  | greater => some (x > y)
  | atLeast => some (x ≥ y)
  | less => some (x < y)
  | atMost => some (x ≤ y)
  | contains => none

end Operator

end Outlay.Query
