import Outlay.Proofs.Toml.Scalar
import Outlay.Proofs.Toml.Table

/-!
# Documents are read back

A document of sections is read line by line as the statements it was written of, and those make up the
tables of its sections, as long as no name stands twice.
-/

namespace Outlay.Toml

open Query (MaximalRun)

/-! Names and keys. -/

section

variable (name : String) {rest : List Char}

theorem readName_write_basic :
    readName (QuoteStyle.basic.write name.toList ++ rest) = some (name, rest) := by
  have written : QuoteStyle.basic.write name.toList ++ rest =
      '"' :: (name.toList.flatMap escape ++ '"' :: rest) := by
    simp [QuoteStyle.write]
  rw [written, readName, readBasic_flatMap_escape]
  simp only [Option.map_some, String.ofList_toList]

theorem readName_write_literal (printable : ∀ c ∈ name.toList, isPrintable c = true)
    (noQuote : '\'' ∉ name.toList) :
    readName (QuoteStyle.literal.write name.toList ++ rest) = some (name, rest) := by
  have written : QuoteStyle.literal.write name.toList ++ rest =
      '\'' :: (name.toList ++ '\'' :: rest) := by
    simp [QuoteStyle.write]
  rw [written, readName, readLiteral_append printable noQuote]
  simp only [Option.map_some, String.ofList_toList]

theorem readName_bare {s : List Char} (nonempty : s ≠ []) (all : ∀ c ∈ s, isBare c = true)
    (ends : ∀ c ∈ rest.head?, isBare c = false) :
    readName (s ++ rest) = some (String.ofList s, rest) := by
  have run : MaximalRun isBare s rest := ⟨all, ends⟩
  obtain ⟨c, more, rfl⟩ := List.exists_cons_of_ne_nil nonempty
  have first := all c List.mem_cons_self
  unfold readName
  split
  next same => exact absurd ((List.cons.inj same).1 ▸ first) (by decide)
  next same => exact absurd ((List.cons.inj same).1 ▸ first) (by decide)
  next =>
    simp only [run.takeWhile_eq, run.dropWhile_eq]
    rfl

/-- What a key starts with, quotes included. -/
def IsNameStart (c : Char) : Prop := isBare c = true ∨ c = '"' ∨ c = '\''

theorem exists_nameText_eq_cons : ∃ c more, nameText name = c :: more ∧ IsNameStart c := by
  unfold nameText
  dsimp only
  split
  next bare =>
    obtain ⟨nonempty, all⟩ := Bool.and_eq_true_iff.1 bare
    have nonempty : name.toList ≠ [] := by simpa using nonempty
    obtain ⟨c, more, text⟩ := List.exists_cons_of_ne_nil nonempty
    rw [text, List.all_cons] at all
    exact ⟨c, more, text, .inl (Bool.and_eq_true_iff.1 all).1⟩
  next =>
    split
    · exact ⟨_, _, rfl, .inr (.inl rfl)⟩
    · split
      · exact ⟨_, _, rfl, .inr (.inr rfl)⟩
      · exact ⟨_, _, rfl, .inr (.inl rfl)⟩

theorem IsNameStart.ne {c d : Char} (start : IsNameStart c) (bare : isBare d = false)
    (double : d ≠ '"') (single : d ≠ '\'') : c ≠ d := by
  rintro rfl
  rcases start with found | rfl | rfl
  · rw [found] at bare
    cases bare
  · exact double rfl
  · exact single rfl

theorem IsNameStart.isSpace_eq_false {c : Char} (start : IsNameStart c) : isSpace c = false := by
  rw [isSpace, Bool.or_eq_false_iff, beq_eq_false_iff_ne, beq_eq_false_iff_ne]
  exact ⟨start.ne (by decide) (by decide) (by decide), start.ne (by decide) (by decide) (by decide)⟩

theorem readName_nameText (ends : ∀ c ∈ rest.head?, isBare c = false) :
    readName (nameText name ++ rest) = some (name, rest) := by
  unfold nameText
  dsimp only
  split
  next bare =>
    obtain ⟨nonempty, all⟩ := Bool.and_eq_true_iff.1 bare
    have read := readName_bare (by simpa using nonempty) (List.all_eq_true.1 all) ends
    rwa [String.ofList_toList] at read
  next =>
    split
    · exact readName_write_basic name
    · split
      next literal =>
        obtain ⟨plain, noQuote⟩ := Bool.and_eq_true_iff.1 literal
        exact readName_write_literal name (by simpa using plain) (by simpa using noQuote)
      next => exact readName_write_basic name

theorem readKey_nameText (ends : ∀ c ∈ rest.head?, isBare c = false)
    (single : ∀ c ∈ (rest.dropWhile isSpace).head?, c ≠ '.') :
    readKey depthLimit (nameText name ++ rest) = some ([name], rest.dropWhile isSpace) := by
  obtain ⟨c, more, text, start⟩ := exists_nameText_eq_cons name
  have front : (nameText name ++ rest).dropWhile isSpace = nameText name ++ rest := by
    rw [text, List.cons_append, List.dropWhile_cons, start.isSpace_eq_false]
    rfl
  change readKey (78 + 1) _ = _
  rw [readKey, front, readName_nameText name ends]
  dsimp only [Option.bind_some]
  split
  next point => exact absurd rfl (single '.' (by rw [point]; rfl))
  next => rfl

end

/-! Lines. -/

theorem readStatement_header (name : String) (rest : List Char) :
    readStatement ('[' :: (nameText name ++ ']' :: '\n' :: rest)) = some (.header [name], rest) := by
  have key : readKey depthLimit (nameText name ++ ']' :: '\n' :: rest) =
      some ([name], ']' :: '\n' :: rest) :=
    readKey_nameText name (by rintro c ⟨⟩; decide) (by rintro c ⟨⟩; decide)
  obtain ⟨c, more, text, start⟩ := exists_nameText_eq_cons name
  rw [text, List.cons_append] at key ⊢
  rw [readStatement, key]
  · rfl
  · exact fun _ same => start.ne (d := '[') (by decide) (by decide) (by decide) (List.cons.inj same).1

theorem readValue_text {v : Scalar} (back : v.ReadsBack) (rest : List Char) :
    readValue depthLimit (v.text ++ '\n' :: rest) = some (.scalar v, '\n' :: rest) := by
  have read := back.read rest
  obtain ⟨c, more, text, -, noBracket, noBrace⟩ := back.front
  rw [text, List.cons_append] at read ⊢
  change readValue (78 + 1) _ = _
  rw [readValue, read]
  · rfl
  · exact fun _ same => noBracket (List.cons.inj same).1
  · exact fun _ same => noBrace (List.cons.inj same).1

theorem readPair_assignmentText {entry : String × Scalar} (back : entry.2.ReadsBack)
    (rest : List Char) :
    readPair (readValue depthLimit) (assignmentText entry ++ rest) =
      some (([entry.1], .scalar entry.2), '\n' :: rest) := by
  have value := readValue_text back rest
  have written : assignmentText entry ++ rest =
      nameText entry.1 ++ ' ' :: '=' :: ' ' :: (entry.2.text ++ '\n' :: rest) := by
    simp [assignmentText]
  have key : readKey depthLimit (nameText entry.1 ++ ' ' :: '=' :: ' ' :: (entry.2.text ++ '\n' :: rest)) =
      some ([entry.1], '=' :: ' ' :: (entry.2.text ++ '\n' :: rest)) :=
    readKey_nameText entry.1 (by rintro c ⟨⟩; decide) (by rintro c ⟨⟩; decide)
  have front : (' ' :: (entry.2.text ++ '\n' :: rest)).dropWhile isSpace =
      entry.2.text ++ '\n' :: rest := by
    obtain ⟨c, more, text, noSpace, -⟩ := back.front
    rw [text, List.cons_append, List.dropWhile_cons_of_pos rfl,
      List.dropWhile_cons_of_neg (by rw [noSpace]; exact Bool.false_ne_true)]
  rw [written, readPair, key, Option.bind_some]
  simp only [front, value, Option.map_some]

theorem readStatement_assignmentText {entry : String × Scalar} (back : entry.2.ReadsBack)
    (rest : List Char) :
    readStatement (assignmentText entry ++ rest) =
      some (entryStatement entry, rest) := by
  have pair := readPair_assignmentText back rest
  obtain ⟨c, more, text, start⟩ := exists_nameText_eq_cons entry.1
  have noBracket : c ≠ '[' := start.ne (by decide) (by decide) (by decide)
  unfold assignmentText at pair ⊢
  rw [text] at pair ⊢
  simp only [List.cons_append] at pair ⊢
  rw [readStatement, pair]
  · rfl
  · exact fun _ same => noBracket (List.cons.inj same).1
  · exact fun _ same => noBracket (List.cons.inj same).1

/-! Whole documents. -/

/-- A statement is read from its line, whatever was skipped before it. -/
theorem readStatements_line {s line rest : List Char} {statement : Statement}
    (skipped : skip false s = line ++ rest) (nonempty : line ≠ [])
    (suffix : line ++ rest <:+ s)
    (read : readStatement (line ++ rest) = some (statement, rest)) :
    readStatements s = (readStatements rest).map (statement :: ·) := by
  have shorter : rest.length < s.length := by
    have whole := suffix.length_le
    have some := List.length_pos_iff.2 nonempty
    rw [List.length_append] at whole
    omega
  obtain ⟨c, more, text⟩ := List.exists_cons_of_ne_nil nonempty
  rw [readStatements, skipped]
  split
  next none =>
    rw [text] at none
    cases none
  next =>
    rw [read]
    exact if_pos shorter

/-- A line starts with none of the characters that are skipped. -/
theorem skip_cons {c : Char} (line : c ≠ '\n') (carriage : c ≠ '\r') (space : isSpace c = false)
    (comment : c ≠ '#') (rest : List Char) : skip false (c :: rest) = c :: rest := by
  rw [skip, if_neg line, if_neg Bool.false_ne_true, if_neg (by rw [space]; exact Bool.false_ne_true),
    if_neg comment]
  exact fun _ same => absurd same carriage

theorem skip_breaks {breaks : List Char} (all : ∀ c ∈ breaks, c = '\n') (rest : List Char) :
    skip false (breaks ++ rest) = skip false rest := by
  induction breaks with
  | nil => rfl
  | cons c breaks ih =>
    rw [List.forall_mem_cons] at all
    rw [all.1, List.cons_append, skip, if_pos rfl, ih all.2]
    exact fun _ same => absurd same (by decide)

theorem readStatements_assignments {entries : List (String × Scalar)}
    (back : ∀ entry ∈ entries, entry.2.ReadsBack) (rest : List Char) :
    readStatements (entries.flatMap assignmentText ++ rest) =
      (readStatements rest).map
        (entries.map entryStatement ++ ·) := by
  induction entries with
  | nil => simp
  | cons entry entries ih =>
    rw [List.forall_mem_cons] at back
    have read := readStatement_assignmentText back.1 (entries.flatMap assignmentText ++ rest)
    obtain ⟨c, more, text, start⟩ := exists_nameText_eq_cons entry.1
    have line : assignmentText entry = c :: (more ++ [' ', '=', ' '] ++ entry.2.text ++ ['\n']) := by
      rw [assignmentText, text]
      rfl
    have skipped : skip false (assignmentText entry ++ (entries.flatMap assignmentText ++ rest)) =
        assignmentText entry ++ (entries.flatMap assignmentText ++ rest) := by
      rw [line, List.cons_append]
      have differs {d : Char} := start.ne (d := d)
      exact skip_cons (differs (by decide) (by decide) (by decide))
        (differs (by decide) (by decide) (by decide)) start.isSpace_eq_false
        (differs (by decide) (by decide) (by decide)) _
    rw [List.flatMap_cons, List.append_assoc,
      readStatements_line skipped (line ▸ List.cons_ne_nil _ _) List.suffix_rfl read, ih back.2]
    simp [Function.comp_def]

/-- A section is read, whatever empty lines stand before it. -/
theorem readStatements_sectionText {s : Section} (back : ∀ entry ∈ s.2, entry.2.ReadsBack)
    {breaks : List Char} (all : ∀ c ∈ breaks, c = '\n') (rest : List Char) :
    readStatements (breaks ++ sectionText s ++ rest) =
      (readStatements rest).map (sectionStatements s ++ ·) := by
  have written : sectionText s ++ rest =
      '[' :: (nameText s.1 ++ [']', '\n']) ++ (s.2.flatMap assignmentText ++ rest) := by
    simp [sectionText]
  have read : readStatement ('[' :: (nameText s.1 ++ [']', '\n']) ++
      (s.2.flatMap assignmentText ++ rest)) = some (.header [s.1], s.2.flatMap assignmentText ++ rest) := by
    have header := readStatement_header s.1 (s.2.flatMap assignmentText ++ rest)
    simpa using header
  have skipped : skip false (breaks ++ sectionText s ++ rest) =
      '[' :: (nameText s.1 ++ [']', '\n']) ++ (s.2.flatMap assignmentText ++ rest) := by
    rw [List.append_assoc, skip_breaks all, written]
    exact skip_cons (by decide) (by decide) (by decide) (by decide) _
  rw [readStatements_line skipped (List.cons_ne_nil _ _) ?_ read, readStatements_assignments back]
  · simp [sectionStatements, Function.comp_def]
  · rw [List.append_assoc, written]
    exact List.suffix_append breaks _

/-- Sections are read, whatever empty lines stand before them; one stands between two of them. -/
theorem readStatements_sectionsText {sections : List Section}
    (back : ∀ s ∈ sections, ∀ entry ∈ s.2, entry.2.ReadsBack) {breaks : List Char}
    (all : ∀ c ∈ breaks, c = '\n') :
    readStatements (breaks ++ sectionsText sections) = some (sections.flatMap sectionStatements) := by
  induction sections generalizing breaks with
  | nil =>
    have skipped := skip_breaks all []
    rw [sectionsText, List.map_nil, List.intercalate_nil, readStatements, skipped]
    rfl
  | cons s sections ih =>
    rw [List.forall_mem_cons] at back
    cases sections with
    | nil =>
      have read := readStatements_sectionText back.1 all []
      have none : readStatements [] = some [] := by
        rw [readStatements]
        rfl
      rw [List.append_nil, none] at read
      simpa [sectionsText, List.intercalate_singleton] using read
    | cons t sections =>
      have single : ∀ c ∈ ['\n'], c = '\n' := by simp
      have next := ih back.2 single
      have written : sectionsText (s :: t :: sections) =
          sectionText s ++ (['\n'] ++ sectionsText (t :: sections)) := by
        simp [sectionsText]
      rw [written, ← List.append_assoc, readStatements_sectionText back.1 all, next]
      rfl

theorem head?_sectionsText (sections : List Section) : ∀ c ∈ (sectionsText sections).head?, c = '[' := by
  match sections with
  | [] => rintro c ⟨⟩
  | [s] =>
    rw [sectionsText, List.map_singleton, List.intercalate_singleton]
    rintro c ⟨⟩
    rfl
  | s :: t :: sections =>
    rw [sectionsText, List.map_cons, List.map_cons, List.intercalate_cons_cons]
    rintro c ⟨⟩
    rfl

/-- What is written of sections is read as their tables. -/
theorem read?_sectionsText {sections : List Section}
    (back : ∀ s ∈ sections, ∀ entry ∈ s.2, entry.2.ReadsBack)
    (names : sections.Pairwise (·.1 ≠ ·.1)) (keys : ∀ s ∈ sections, s.2.Pairwise (·.1 ≠ ·.1)) :
    read? (String.ofList (sectionsText sections)) = some (sections.map sectionTable) := by
  have statements := readStatements_sectionsText back (List.forall_mem_nil (· = '\n'))
  have noMark : dropMark (sectionsText sections) = sectionsText sections := by
    unfold dropMark
    split
    next mark =>
      have front := head?_sectionsText sections '\ufeff' (by rw [mark]; rfl)
      exact absurd front (by decide)
    next => rfl
  rw [List.nil_append] at statements
  rw [read?, String.toList_ofList, noMark, statements, Option.bind_some,
    tableOf?_sectionStatements names keys]

end Outlay.Toml
