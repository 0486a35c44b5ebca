/-!
Sets of characters given by code point spans. The tables of character properties are written in
this form.
-/

namespace Outlay.Text

/-- First and last code point of each span. -/
abbrev Spans := List (Nat × Nat)

def Spans.contains (spans : Spans) (c : Char) : Bool :=
  spans.any fun span => span.1 ≤ c.toNat && c.toNat ≤ span.2

theorem Spans.contains_iff {spans : Spans} {c : Char} :
    spans.contains c = true ↔ ∃ span ∈ spans, span.1 ≤ c.toNat ∧ c.toNat ≤ span.2 := by
  simp [Spans.contains]

end Outlay.Text
