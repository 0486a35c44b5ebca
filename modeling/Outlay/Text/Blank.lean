/-!
White space, in the sense of the Unicode property White_Space, and trimming.
-/

namespace Outlay.Text

def isBlank (c : Char) : Bool :=
  let n := c.toNat
  (9 ≤ n && n ≤ 13) || n == 0x20 || n == 0x85 || n == 0xA0 || n == 0x1680 ||
    (0x2000 ≤ n && n ≤ 0x200A) || n == 0x2028 || n == 0x2029 || n == 0x202F ||
    n == 0x205F || n == 0x3000

/-- Drops the blanks at both ends. -/
def trim (s : List Char) : List Char :=
  ((s.dropWhile isBlank).reverse.dropWhile isBlank).reverse

def trimmed (s : String) : String := String.ofList (trim s.toList)

/-- The text holds nothing but blanks. -/
def isBlankText (s : String) : Bool := s.toList.all isBlank

@[simp] theorem trim_nil : trim [] = [] := rfl

theorem trim_eq_nil_iff {s : List Char} : trim s = [] ↔ s.all isBlank = true := by
  have dropped (t : List Char) : t.dropWhile isBlank = [] ↔ t.all isBlank = true := by
    induction t with
    | nil => simp
    | cons c t ih => by_cases h : isBlank c = true <;> simp_all
  have kept (t : List Char) : (t.dropWhile isBlank).all isBlank = true ↔ t.all isBlank = true := by
    induction t with
    | nil => simp
    | cons c t ih => by_cases h : isBlank c = true <;> simp_all
  rw [trim, List.reverse_eq_nil_iff, dropped, List.all_reverse, kept]

end Outlay.Text
