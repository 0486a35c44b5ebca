import Mathlib.Data.List.Forall2
import Outlay.Csv
import Outlay.Proofs.Text.Bytes

/-!
# Written lines

A field in quotes, with every quote in it doubled, is read as what it was written for, whatever
bytes it has. So is a line of fields, and so are the lines of a table.
-/

namespace Outlay.Csv

/-- Nothing or a comma or line break comes next. -/
def FieldEnds (rest : Bytes) : Prop := ∀ b ∈ rest.head?, endsField b = true

/-- Nothing or a line break comes next. -/
def LineEnds (rest : Bytes) : Prop := ∀ b ∈ rest.head?, isBreak b = true

theorem LineEnds.fieldEnds {rest : Bytes} (h : LineEnds rest) : FieldEnds rest := by
  intro b front
  rw [endsField, h b front, Bool.or_true]

theorem fieldEnds_comma (rest : Bytes) : FieldEnds (comma :: rest) := by
  rintro b ⟨⟩
  rfl

theorem plainText_append {plain rest : Bytes} (inside : ∀ b ∈ plain, endsField b = false)
    (ends : FieldEnds rest) : plainText (plain ++ rest) = (plain, rest) := by
  induction plain with
  | nil =>
    cases rest with
    | nil => rfl
    | cons b rest => simp [plainText, ends b rfl]
  | cons b plain ih =>
    rw [List.forall_mem_cons] at inside
    obtain ⟨taken, left⟩ := Prod.mk.inj (ih inside.2)
    simp only [plainText, List.cons_append]
    rw [List.takeWhile_cons_of_pos (by simp [inside.1]), List.dropWhile_cons_of_pos (by simp [inside.1]),
      taken, left]

/-- A byte as it stands between quotes. -/
def doubled (b : UInt8) : Bytes := if b = quote then [quote, quote] else [b]

/-- A field in quotes. -/
def quoted (content : Bytes) : Bytes := quote :: content.flatMap doubled ++ [quote]

theorem quotedText_cons {b : UInt8} (h : b ≠ quote) (s : Bytes) :
    quotedText (b :: s) = (b :: (quotedText s).1, (quotedText s).2) := by
  cases s <;> simp [quotedText, h]

theorem quotedText_flatMap_doubled (content : Bytes) {rest : Bytes}
    (closes : ∀ b ∈ rest.head?, b ≠ quote) :
    quotedText (content.flatMap doubled ++ quote :: rest) = (content, rest) := by
  induction content with
  | nil =>
    cases rest with
    | nil => rfl
    | cons b rest => simp [quotedText, closes b rfl]
  | cons b content ih =>
    rw [List.flatMap_cons, List.append_assoc, doubled]
    split
    next same =>
      subst same
      simp [quotedText, ih]
    next other =>
      rw [List.singleton_append, quotedText_cons other, ih]

/-- These bytes stand for a field wherever a field may stand. -/
def Spells (written content : Bytes) : Prop :=
  ∀ rest, FieldEnds rest → field (written ++ rest) = (content, rest)

theorem spells_quoted (content : Bytes) : Spells (quoted content) content := by
  intro rest ends
  have closes : ∀ b ∈ rest.head?, b ≠ quote := by
    rintro b front rfl
    exact absurd (ends quote front) (by decide)
  have written : quoted content ++ rest = quote :: (content.flatMap doubled ++ quote :: rest) := by
    simp [quoted]
  have behind : plainText rest = ([], rest) :=
    plainText_append (List.forall_mem_nil _) ends
  rw [written, field, if_pos rfl, quotedText_flatMap_doubled content closes]
  simp only [behind, List.append_nil]

/-- A field without quotes, commas and line breaks needs no quotes. -/
theorem spells_plain {content : Bytes} (inside : ∀ b ∈ content, endsField b = false ∧ b ≠ quote) :
    Spells content content := by
  intro rest ends
  have read : plainText (content ++ rest) = (content, rest) :=
    plainText_append (fun b member => (inside b member).1) ends
  unfold field
  split
  next nothing =>
    obtain ⟨rfl, rfl⟩ := List.append_eq_nil_iff.1 nothing
    rfl
  next b more start =>
    have notQuote : b ≠ quote := by
      rintro rfl
      cases content with
      | nil =>
        obtain rfl : rest = quote :: more := start
        exact absurd (ends quote rfl) (by decide)
      | cons c content =>
        obtain ⟨rfl, -⟩ := List.cons.inj start
        exact (inside _ List.mem_cons_self).2 rfl
    rw [if_neg notQuote, ← start, read]

theorem fields_last {s first rest : Bytes} (read : field s = (first, rest)) (ends : LineEnds rest) :
    fields s = ([first], rest) := by
  rw [fields]
  split
  next first' only =>
    cases read.symm.trans only
    rfl
  next first' b rest' more =>
    cases read.symm.trans more
    have notComma : b ≠ comma := by
      rintro rfl
      exact absurd (ends comma rfl) (by decide)
    rw [if_neg notComma]

theorem fields_comma {s first rest : Bytes} (read : field s = (first, comma :: rest)) :
    fields s = (first :: (fields rest).1, (fields rest).2) := by
  rw [fields]
  split
  next first' only => cases read.symm.trans only
  next first' b rest' more =>
    cases read.symm.trans more
    rw [if_pos rfl]

/-- Fields with commas between them. -/
def line (written : List Bytes) : Bytes := [comma].intercalate written

theorem line_cons_cons (first second : Bytes) (more : List Bytes) :
    line (first :: second :: more) = first ++ comma :: line (second :: more) := by
  rw [line, List.intercalate_cons_cons, List.append_assoc]
  rfl

theorem fields_line {written contents : List Bytes} (spelled : List.Forall₂ Spells written contents)
    (nonempty : written ≠ []) {rest : Bytes} (ends : LineEnds rest) :
    fields (line written ++ rest) = (contents, rest) := by
  induction spelled with
  | nil => exact absurd rfl nonempty
  | cons first more ih =>
    rename_i a b written contents
    cases more with
    | nil =>
      rw [line, List.intercalate_singleton]
      exact fields_last (first rest ends.fieldEnds) ends
    | cons second more =>
      rw [line_cons_cons, List.append_assoc, List.cons_append]
      rw [fields_comma (first _ (fieldEnds_comma _)), ih (List.cons_ne_nil _ _)]

theorem records_breaks {gap : Bytes} (breaks : ∀ b ∈ gap, isBreak b = true) (rest : Bytes) :
    records (gap ++ rest) = records rest := by
  have dropped : (gap ++ rest).dropWhile isBreak = rest.dropWhile isBreak := by
    rw [List.dropWhile_append_of_pos breaks]
  rw [records, records, dropped]

theorem records_nil : records [] = [] := by
  rw [records]
  rfl

/-- The first byte of a line is no break. -/
theorem records_line {written contents : List Bytes} (spelled : List.Forall₂ Spells written contents)
    {b : UInt8} {more : Bytes} (start : line written = b :: more) (visible : isBreak b = false)
    {rest : Bytes} (ends : LineEnds rest) :
    records (line written ++ rest) = contents :: records rest := by
  have nonempty : written ≠ [] := by
    rintro rfl
    cases start
  have read := fields_line spelled nonempty ends
  have kept : (line written ++ rest).dropWhile isBreak = line written ++ rest := by
    rw [start, List.cons_append, List.dropWhile_cons_of_neg (by simp [visible])]
  rw [records]
  split
  next nothing =>
    rw [kept, start] at nothing
    cases nothing
  next b' more' whole =>
    rw [kept] at whole
    rw [← whole, read]

/-! Texts of tables. -/

/-- How lines end. -/
inductive LineBreak where
  | feed
  | returnFeed
  deriving DecidableEq, Repr

def LineBreak.text : LineBreak → List Char
  | feed => ['\n']
  | returnFeed => ['\r', '\n']

/-- A cell in quotes, with the quotes in it doubled. -/
def cellText (s : String) : List Char :=
  '"' :: s.toList.flatMap (fun c => if c = '"' then [c, c] else [c]) ++ ['"']

/-- Cells with commas between them, and the end of the line. -/
def lineText (lineBreak : LineBreak) (cells : List (List Char)) : List Char :=
  [','].intercalate cells ++ lineBreak.text

theorem flatMap_doubled_utf8EncodeChar (c : Char) :
    (String.utf8EncodeChar c).flatMap doubled =
      Bytes.ofChars (if c = '"' then [c, c] else [c]) := by
  by_cases same : c = '"'
  · subst same
    rfl
  · have noQuote : ∀ b ∈ String.utf8EncodeChar c, b ≠ quote := by
      rintro b member rfl
      have code := (Bytes.utf8EncodeChar_of_mem (by decide) member).2
      exact same (Char.toNat_inj.1 code)
    have kept : (String.utf8EncodeChar c).flatMap doubled = (String.utf8EncodeChar c).flatMap ([·]) :=
      List.flatMap_congr fun b member => if_neg (noQuote b member)
    rw [kept, List.flatMap_singleton', if_neg same]
    exact (List.flatMap_singleton _ _).symm

theorem ofChars_cellText (s : String) : Bytes.ofChars (cellText s) = quoted (Bytes.ofText s) := by
  have inside : Bytes.ofChars (s.toList.flatMap fun c => if c = '"' then [c, c] else [c]) =
      (Bytes.ofText s).flatMap doubled := by
    rw [Bytes.ofText_eq_ofChars, Bytes.ofChars, Bytes.ofChars, List.flatMap_assoc, List.flatMap_assoc]
    exact List.flatMap_congr fun c _ => (flatMap_doubled_utf8EncodeChar c).symm
  rw [cellText, Bytes.ofChars_append, quoted, ← inside]
  rfl

theorem ofChars_intercalate (cells : List (List Char)) :
    Bytes.ofChars ([','].intercalate cells) = line (cells.map Bytes.ofChars) := by
  induction cells with
  | nil => rfl
  | cons first more ih =>
    cases more with
    | nil => rw [List.intercalate_singleton, List.map_singleton, line, List.intercalate_singleton]
    | cons second more =>
      rw [List.intercalate_cons_cons, List.map_cons, List.map_cons, line_cons_cons, ← List.map_cons,
        ← ih, Bytes.ofChars_append, Bytes.ofChars_append, List.append_assoc]
      rfl

theorem isBreak_of_mem_text (lineBreak : LineBreak) :
    ∀ b ∈ Bytes.ofChars lineBreak.text, isBreak b = true := by
  cases lineBreak <;> exact List.all_eq_true.1 rfl

theorem lineEnds_text (lineBreak : LineBreak) (rest : Bytes) :
    LineEnds (Bytes.ofChars lineBreak.text ++ rest) := by
  cases lineBreak <;> rintro b ⟨⟩ <;> rfl

theorem isBreak_eq_false_of_mem {c : Char} (visible : c ≠ '\n' ∧ c ≠ '\r') {b : UInt8}
    (member : b ∈ String.utf8EncodeChar c) : isBreak b = false := by
  rw [← Bool.not_eq_true]
  intro breaks
  simp only [isBreak, Bool.or_eq_true, beq_iff_eq] at breaks
  rcases breaks with rfl | rfl
  · exact visible.1 (Char.toNat_inj.1 (Bytes.utf8EncodeChar_of_mem (by decide) member).2)
  · exact visible.2 (Char.toNat_inj.1 (Bytes.utf8EncodeChar_of_mem (by decide) member).2)

theorem records_lineText (lineBreak : LineBreak) {first : List Char} {more : List (List Char)}
    {contents : List Bytes}
    (spelled : List.Forall₂ (fun cell => Spells (Bytes.ofChars cell)) (first :: more) contents)
    (nonempty : first ≠ []) (visible : ∀ c ∈ first.head?, c ≠ '\n' ∧ c ≠ '\r') (rest : Bytes) :
    records (Bytes.ofChars (lineText lineBreak (first :: more)) ++ rest) =
      contents :: records rest := by
  obtain ⟨c, cell, rfl⟩ := List.exists_cons_of_ne_nil nonempty
  obtain ⟨b, bytes, encoded⟩ := List.exists_cons_of_ne_nil (String.utf8EncodeChar_ne_nil (c := c))
  have noBreak : isBreak b = false :=
    isBreak_eq_false_of_mem (visible c rfl) (encoded ▸ List.mem_cons_self)
  have written := ofChars_intercalate ((c :: cell) :: more)
  obtain ⟨bytes', start⟩ : ∃ bytes', line (((c :: cell) :: more).map Bytes.ofChars) = b :: bytes' := by
    rw [List.map_cons, Bytes.ofChars, List.flatMap_cons, encoded]
    cases more with
    | nil => exact ⟨_, List.intercalate_singleton⟩
    | cons second more =>
      rw [List.map_cons, line_cons_cons]
      exact ⟨_, rfl⟩
  rw [lineText, Bytes.ofChars_append, written, List.append_assoc,
    records_line (List.forall₂_map_left_iff.2 spelled) start noBreak (lineEnds_text lineBreak rest),
    records_breaks (isBreak_of_mem_text lineBreak)]

theorem records_quotedLine (lineBreak : LineBreak) {cells : List String} (nonempty : cells ≠ [])
    (rest : Bytes) :
    records (Bytes.ofChars (lineText lineBreak (cells.map cellText)) ++ rest) =
      cells.map Bytes.ofText :: records rest := by
  have spelled : List.Forall₂ (fun cell => Spells (Bytes.ofChars cell)) (cells.map cellText)
      (cells.map Bytes.ofText) := by
    rw [List.forall₂_map_left_iff, List.forall₂_map_right_iff, List.forall₂_same]
    intro cell _
    rw [ofChars_cellText]
    exact spells_quoted _
  cases cells with
  | nil => exact absurd rfl nonempty
  | cons first more =>
    refine records_lineText lineBreak spelled (List.cons_ne_nil _ _) ?_ rest
    rintro c ⟨⟩
    decide

theorem records_plainLine (lineBreak : LineBreak) {first : String} {more : List String}
    (nonempty : first.toList ≠ [])
    (inside : ∀ cell ∈ first :: more, ∀ b ∈ Bytes.ofText cell, endsField b = false ∧ b ≠ quote)
    (rest : Bytes) :
    records (Bytes.ofChars (lineText lineBreak ((first :: more).map String.toList)) ++ rest) =
      (first :: more).map Bytes.ofText :: records rest := by
  have spelled : List.Forall₂ (fun cell => Spells (Bytes.ofChars cell))
      ((first :: more).map String.toList) ((first :: more).map Bytes.ofText) := by
    rw [List.forall₂_map_left_iff, List.forall₂_map_right_iff, List.forall₂_same]
    intro cell member
    rw [← Bytes.ofText_eq_ofChars]
    exact spells_plain (inside cell member)
  refine records_lineText lineBreak spelled nonempty ?_ rest
  have plain := (List.forall_mem_cons.1 inside).1
  obtain ⟨c, chars, text⟩ := List.exists_cons_of_ne_nil nonempty
  rw [text]
  rw [Bytes.ofText_eq_ofChars, text] at plain
  rintro c' ⟨⟩
  constructor <;> rintro rfl
  · exact absurd (plain 0x0A (List.mem_append_left _ List.mem_cons_self)).1 (by decide)
  · exact absurd (plain 0x0D (List.mem_append_left _ List.mem_cons_self)).1 (by decide)

end Outlay.Csv
