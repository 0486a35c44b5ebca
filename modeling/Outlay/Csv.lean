import Outlay.Text.Bytes

/-!
Tables written as lines of fields with commas between them. A field may stand in quotes, where
commas and line breaks are plain text and a doubled quote is one quote. Empty lines do not count.
Every sequence of bytes is a table.
-/

namespace Outlay.Csv

def quote : UInt8 := 0x22

def comma : UInt8 := 0x2C

/-- Line feed or carriage return; the two together enclose an empty line. -/
def isBreak (b : UInt8) : Bool := b == 0x0A || b == 0x0D

def endsField (b : UInt8) : Bool := b == comma || isBreak b

/-- The text up to the closing quote and what follows. Without one it runs to the end. -/
def quotedText : Bytes → Bytes × Bytes
  | [] => ([], [])
  | [b] => if b = quote then ([], []) else ([b], [])
  | b :: c :: rest =>
    if b = quote then
      if c = quote then
        let after := quotedText rest
        (quote :: after.1, after.2)
      else ([], c :: rest)
    else
      let after := quotedText (c :: rest)
      (b :: after.1, after.2)

/-- Everything up to the next comma or line break, quotes included. -/
def plainText (s : Bytes) : Bytes × Bytes :=
  (s.takeWhile (!endsField ·), s.dropWhile (!endsField ·))

/-- A field and what follows. Text behind a closing quote still belongs to the field. -/
def field (s : Bytes) : Bytes × Bytes :=
  match s with
  | [] => ([], [])
  | b :: rest =>
    if b = quote then
      let inside := quotedText rest
      let after := plainText inside.2
      (inside.1 ++ after.1, after.2)
    else plainText (b :: rest)

theorem length_quotedText_le (s : Bytes) : (quotedText s).2.length ≤ s.length := by
  fun_induction quotedText s with
  | case1 => simp
  | case2 => simp
  | case3 => simp
  | case4 rest after ih => exact Nat.le_succ_of_le (Nat.le_succ_of_le ih)
  | case5 => simp
  | case6 b c rest _ after ih => exact Nat.le_succ_of_le ih

theorem length_plainText_le (s : Bytes) : (plainText s).2.length ≤ s.length := by
  simpa [plainText] using (List.dropWhile_sublist (!endsField ·)).length_le

theorem length_field_le (s : Bytes) : (field s).2.length ≤ s.length := by
  unfold field
  split
  next => simp
  next b rest =>
    split
    next =>
      have := length_plainText_le (quotedText rest).2
      have := length_quotedText_le rest
      simp only [List.length_cons]
      omega
    next => exact length_plainText_le (b :: rest)

/-- The fields up to the end of the line, and the rest with the line break. -/
def fields (s : Bytes) : List Bytes × Bytes :=
  match _first : field s with
  | (first, []) => ([first], [])
  | (first, b :: rest) =>
    if b = comma then
      let more := fields rest
      (first :: more.1, more.2)
    else ([first], b :: rest)
termination_by s.length
decreasing_by
  all_goals
    have := length_field_le s
    rw [_first] at this
    simp only [List.length_cons] at this
    omega

theorem length_fields_le (s : Bytes) : (fields s).2.length ≤ s.length := by
  have start := length_field_le s
  fun_induction fields s with
  | case1 => simp
  | case2 s first rest more eq ih =>
    rw [eq] at start
    exact Nat.le_trans (ih (length_field_le rest)) (Nat.le_of_succ_le start)
  | case3 s first b rest eq => rwa [eq] at start

/-- A field takes up at least one byte unless it is empty and ends at once. -/
theorem length_field_lt {b : UInt8} {s : Bytes} (h : endsField b = false) :
    (field (b :: s)).2.length < (b :: s).length := by
  unfold field
  simp only [List.length_cons]
  split
  next =>
    have := length_plainText_le (quotedText s).2
    have := length_quotedText_le s
    simp only
    omega
  next =>
    have same : (plainText (b :: s)).2 = (plainText s).2 := by simp [plainText, h]
    rw [same]
    exact Nat.lt_succ_of_le (length_plainText_le s)

/-- A line takes up at least one byte if it does not start with a break. -/
theorem length_fields_lt {b : UInt8} {s : Bytes} (h : isBreak b = false) :
    (fields (b :: s)).2.length < (b :: s).length := by
  have whole := length_field_le (b :: s)
  rw [fields]
  split
  next => simp
  next first c rest eq =>
    rw [eq] at whole
    split
    next => exact Nat.lt_of_le_of_lt (length_fields_le rest) whole
    next notComma =>
      by_cases ends : b = comma
      · subst ends
        simp [field, plainText, endsField, quote, comma] at eq
        exact absurd eq.2.1.symm notComma
      · have := length_field_lt (b := b) (s := s) (by simp [endsField, ends, h])
        rwa [eq] at this

/-- The lines that are not empty, each split into fields. -/
def records (s : Bytes) : List (List Bytes) :=
  match _line : s.dropWhile isBreak with
  | [] => []
  | b :: rest =>
    let line := fields (b :: rest)
    line.1 :: records line.2
termination_by s.length
decreasing_by
  have start : isBreak b = false := by
    have := List.head_dropWhile_not isBreak (l := s) (by simp [_line])
    simpa [_line] using this
  have := length_fields_lt (s := rest) start
  have := (List.dropWhile_sublist isBreak (l := s)).length_le
  rw [_line] at this
  omega

/-- A mark at the very front that tells the encoding, and is no text. -/
def byteOrderMark : Bytes := [0xEF, 0xBB, 0xBF]

def dropMark (s : Bytes) : Bytes := if byteOrderMark.isPrefixOf s then s.drop 3 else s

/-- The records of a whole file. -/
def ofFile (s : Bytes) : List (List Bytes) := records (dropMark s)

example : ofFile "a,\"b\"\"\"c\n\r\n\"\"".toUTF8.data.toList =
    [["a".toUTF8.data.toList, "b\"c".toUTF8.data.toList], [[]]] := by
  decide +kernel

end Outlay.Csv
