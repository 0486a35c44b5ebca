import Outlay.Toml.Document

/-!
# Quoted strings are read back

Whatever kind of quotes is taken for a text, the text between them is read as it was, up to the end of
the quotes.
-/

namespace Outlay.Toml

/-! Characters. -/

theorem charOf?_capitalDigits :
    ∀ n < 128, charOf? ['0', '0', capitalDigit (n / 16), capitalDigit (n % 16)] = some (Char.ofNat n) := by
  decide +kernel

theorem toNat_lt_of_needsCode {c : Char} (h : needsCode c = true) : c.toNat < 128 := by
  simp only [needsCode, isPrintable, Bool.and_eq_true, Bool.not_eq_true', Bool.or_eq_false_iff,
    Bool.and_eq_false_iff, decide_eq_false_iff_not, bne_eq_false_iff_eq] at h
  omega

theorem charOf?_of_needsCode {c : Char} (h : needsCode c = true) :
    charOf? ['0', '0', capitalDigit (c.toNat / 16), capitalDigit (c.toNat % 16)] = some c := by
  rw [charOf?_capitalDigits _ (toNat_lt_of_needsCode h), Char.ofNat_toNat]

theorem isPrintable_of_needsCode_eq_false {c : Char} (plain : needsCode c = false) (same : c ≠ '\n') :
    isPrintable c = true := by
  simpa [needsCode, same] using plain

/-! Basic and literal strings. -/

theorem readBasic_plain {c : Char} (quote : c ≠ '"') (slash : c ≠ '\\') (printable : isPrintable c = true)
    (t : List Char) : readBasic (c :: t) = prepend c (readBasic t) := by
  rw [readBasic]
  · exact if_pos printable
  · exact quote
  · exact fun _ _ _ _ _ same _ => slash same
  · exact fun _ _ _ _ _ _ _ _ _ same _ => slash same
  · exact fun _ _ same _ => slash same

theorem readBasic_escape (c : Char) (t : List Char) :
    readBasic (escape c ++ t) = prepend c (readBasic t) := by
  unfold escape
  split
  case h_8 back tab line feed carriage quote slash =>
    split
    next coded =>
      have char := charOf?_of_needsCode coded
      simp only [List.cons_append, List.nil_append, readBasic, char]
    next plain =>
      have printable := isPrintable_of_needsCode_eq_false (Bool.eq_false_iff.2 plain) line
      exact readBasic_plain quote slash printable t
  all_goals rfl

theorem readBasic_flatMap_escape (s rest : List Char) :
    readBasic (s.flatMap escape ++ '"' :: rest) = some (s, rest) := by
  induction s with
  | nil => rfl
  | cons c s ih =>
    rw [List.flatMap_cons, List.append_assoc, readBasic_escape, ih]
    rfl

theorem readLiteral_append {s : List Char} (printable : ∀ c ∈ s, isPrintable c = true)
    (noQuote : '\'' ∉ s) (rest : List Char) : readLiteral (s ++ '\'' :: rest) = some (s, rest) := by
  induction s with
  | nil => rfl
  | cons c s ih =>
    rw [List.forall_mem_cons] at printable
    rw [List.mem_cons, not_or] at noQuote
    rw [List.cons_append, readLiteral, if_pos printable.1, ih printable.2 noQuote.2]
    · rfl
    · exact Ne.symm noQuote.1

/-! Long strings. -/

/-- A text that does not go on with a quote of either kind. -/
def EndsQuotes (rest : List Char) : Prop := ∀ c ∈ rest.head?, c ≠ '"' ∧ c ≠ '\''

theorem closing_none {quote : Char} {rest : List Char} (ends : ∀ c ∈ rest.head?, c ≠ quote) :
    closing quote rest = ([], rest) := by
  cases rest with
  | nil => rfl
  | cons c rest => simp [closing, ends c rfl]

theorem closing_one {quote : Char} {rest : List Char} (ends : ∀ c ∈ rest.head?, c ≠ quote) :
    closing quote (quote :: rest) = ([quote], rest) := by
  cases rest with
  | nil => simp [closing]
  | cons c rest => simp [closing, ends c rfl]

theorem closing_two (quote : Char) (rest : List Char) :
    closing quote (quote :: quote :: rest) = ([quote, quote], rest) := by
  simp [closing]

/-- A character is read as itself unless three quotes start with it. -/
theorem readLongLiteral_plain {c : Char} {t : List Char} (plain : needsCode c = false)
    (noEnd : ∀ more, c = '\'' → t ≠ '\'' :: '\'' :: more) :
    readLongLiteral (c :: t) = prepend c (readLongLiteral t) := by
  have carriage : c ≠ '\r' := by
    rintro rfl
    cases plain
  have kept : (c == '\n' || isPrintable c) = true := by
    by_cases line : c = '\n'
    · rw [line]
      rfl
    · rw [isPrintable_of_needsCode_eq_false plain line, Bool.or_true]
  rw [readLongLiteral]
  · exact if_pos kept
  · exact fun more quote same => noEnd more quote same
  · exact fun _ same _ => carriage same

theorem readLongLiteral_append {s rest : List Char} (plain : ∀ c ∈ s, needsCode c = false)
    (single : hasTriple '\'' s = false) (ends : ∀ c ∈ rest.head?, c ≠ '\'') :
    readLongLiteral (s ++ '\'' :: '\'' :: '\'' :: rest) = some (s, rest) := by
  induction s with
  | nil => exact congrArg some (closing_none ends)
  | cons c t ih =>
    rw [List.forall_mem_cons] at plain
    obtain ⟨first, later⟩ := Bool.or_eq_false_iff.1 single
    have next := ih plain.2 later
    -- Quotes at the very end of the text are read together with those that close it.
    match t, first, next with
    | [], _, next =>
      by_cases quote : c = '\''
      · rw [quote]
        exact congrArg some (closing_one ends)
      · rw [List.cons_append, readLongLiteral_plain plain.1 (fun _ same => absurd same quote), next]
        rfl
    | [d], _, next =>
      by_cases quotes : c = '\'' ∧ d = '\''
      · rw [quotes.1, quotes.2]
        exact congrArg some (closing_two _ rest)
      · rw [List.cons_append, readLongLiteral_plain plain.1 ?_, next]
        · rfl
        · rintro more quote same
          exact quotes ⟨quote, (List.cons.inj same).1⟩
    | d :: e :: u, first, next =>
      rw [List.cons_append, readLongLiteral_plain plain.1 ?_, next]
      · rfl
      · rintro more rfl same
        obtain ⟨rfl, behind⟩ := List.cons.inj same
        obtain ⟨rfl, -⟩ := List.cons.inj behind
        cases first

theorem escapeLong_cons {c : Char} (quote : c ≠ '"') (line : c ≠ '\n') (quotes : Nat) (t : List Char) :
    escapeLong quotes (c :: t) = escape c ++ escapeLong 0 t := by
  rw [escapeLong]
  · exact quote
  · exact line

theorem readLongBasic_plain {c : Char} {t : List Char} (slash : c ≠ '\\') (plain : needsCode c = false)
    (noEnd : ∀ more, c = '"' → t ≠ '"' :: '"' :: more) :
    readLongBasic false (c :: t) = prepend c (readLongBasic false t) := by
  have carriage : c ≠ '\r' := by
    rintro rfl
    cases plain
  have kept : (c == '\n' || (isPrintable c && c != '\\')) = true := by
    by_cases line : c = '\n'
    · rw [line]
      rfl
    · rw [isPrintable_of_needsCode_eq_false plain line]
      simp [slash]
  rw [readLongBasic]
  · rw [Bool.false_and, if_neg Bool.false_ne_true, if_pos kept]
  · exact fun more quote same => noEnd more quote same
  · exact fun _ same _ => carriage same
  · exact fun _ _ _ _ _ same _ => slash same
  · exact fun _ _ _ _ _ _ _ _ _ same _ => slash same
  · exact fun _ _ same _ => slash same

theorem readLongBasic_escape {c : Char} (quote : c ≠ '"') (line : c ≠ '\n') (t : List Char) :
    readLongBasic false (escape c ++ t) = prepend c (readLongBasic false t) := by
  unfold escape
  split
  case h_3 => exact absurd rfl line
  case h_6 => exact absurd rfl quote
  case h_8 back tab line feed carriage quote slash =>
    split
    next coded =>
      have char := charOf?_of_needsCode coded
      simp only [List.cons_append, List.nil_append, readLongBasic, char]
    next plain =>
      exact readLongBasic_plain slash (Bool.eq_false_iff.2 plain) fun _ same => absurd same quote
  all_goals rfl

/-- What is written of a character starts with no quote and breaks no line. -/
theorem exists_escape_eq_cons (c : Char) :
    ∃ d more, escape c = d :: more ∧ d ≠ '"' ∧ d ≠ '\n' ∧ d ≠ '\r' := by
  unfold escape
  split
  case h_8 =>
    split
    · exact ⟨_, _, rfl, by decide⟩
    · exact ⟨_, _, rfl, by assumption, by assumption, by assumption⟩
  all_goals exact ⟨_, _, rfl, by decide⟩

/-- What is written next is no quote unless the text has one there, and after two it never is. -/
theorem exists_escapeLong_eq_cons {quotes : Nat} {c : Char} (spaced : c = '"' → quotes = 2)
    (t : List Char) : ∃ d more, escapeLong quotes (c :: t) = d :: more ∧ d ≠ '"' := by
  by_cases quote : c = '"'
  · rw [quote, escapeLong, if_pos (spaced quote)]
    exact ⟨_, _, rfl, by decide⟩
  · by_cases line : c = '\n'
    · rw [line]
      exact ⟨_, _, rfl, by decide⟩
    · obtain ⟨d, more, front, other, -, -⟩ := exists_escape_eq_cons c
      rw [escapeLong_cons quote line, front]
      exact ⟨d, _, rfl, other⟩

section

variable {rest : List Char} (ends : ∀ c ∈ rest.head?, c ≠ '"')

include ends

/-- A quote that is not escaped does not end the string, since no three stand side by side before its
end. -/
theorem readLongBasic_quote {quotes : Nat} {t : List Char} (few : quotes < 2)
    (next : readLongBasic false (escapeLong (quotes + 1) t ++ '"' :: '"' :: '"' :: rest) =
      some (t, rest)) :
    readLongBasic false ('"' :: escapeLong (quotes + 1) t ++ '"' :: '"' :: '"' :: rest) =
      some ('"' :: t, rest) := by
  -- Quotes at the very end of the text are read together with those that close it.
  match t, next with
  | [], _ => exact congrArg some (closing_one ends)
  | d :: u, next =>
    by_cases spaced : d = '"' → quotes + 1 = 2
    · obtain ⟨d', more, front, other⟩ := exists_escapeLong_eq_cons spaced u
      rw [front] at next ⊢
      rw [List.cons_append, readLongBasic_plain (by decide) rfl ?_, next]
      · rfl
      · exact fun _ _ same => other (List.cons.inj same).1
    · obtain ⟨rfl, first⟩ := Classical.not_imp.1 spaced
      rw [escapeLong, if_neg first] at next ⊢
      obtain rfl : quotes = 0 := by omega
      match u, next with
      | [], _ => exact congrArg some (closing_two _ rest)
      | e :: w, next =>
        obtain ⟨d', more, front, other⟩ := exists_escapeLong_eq_cons (fun _ => rfl) w
        rw [front] at next ⊢
        rw [List.cons_append, readLongBasic_plain (by decide) rfl ?_, next]
        · rfl
        · exact fun _ _ same => other (List.cons.inj (List.cons.inj same).2).1

theorem readLongBasic_escapeLong (s : List Char) {quotes : Nat} (few : quotes ≤ 2) :
    readLongBasic false (escapeLong quotes s ++ '"' :: '"' :: '"' :: rest) = some (s, rest) := by
  induction s generalizing quotes with
  | nil => exact congrArg some (closing_none ends)
  | cons c t ih =>
    by_cases quote : c = '"'
    · subst quote
      by_cases escaped : quotes = 2
      · have next := @ih 0 (by omega)
        rw [escapeLong, if_pos escaped]
        exact (congrArg (prepend '"') next).trans rfl
      · have next := @ih (quotes + 1) (by omega)
        rw [escapeLong, if_neg escaped]
        exact readLongBasic_quote ends (by omega) next
    · by_cases line : c = '\n'
      · have next := @ih 0 (by omega)
        subst line
        exact (readLongBasic_plain (by decide) rfl fun _ same => absurd same quote).trans
          (congrArg (prepend '\n') next)
      · rw [escapeLong_cons quote line, List.append_assoc, readLongBasic_escape quote line,
          ih (by omega)]
        rfl

end

/-! Strings of any kind. -/

/-- The break that a text of several lines is written behind is left out again. -/
theorem dropBreak_leadingBreak {s t : List Char}
    (front : ∀ c ∈ t.head?, c ≠ '\r' ∧ (c = '\n' → '\n' ∈ s)) :
    dropBreak (leadingBreak s ++ t) = t := by
  unfold leadingBreak
  by_cases broken : '\n' ∈ s
  · rw [if_pos (List.contains_iff_mem.2 broken)]
    rfl
  · rw [if_neg (fun h => broken (List.contains_iff_mem.1 h)), List.nil_append]
    cases t with
    | nil => rfl
    | cons c t =>
      obtain ⟨noReturn, line⟩ := front c rfl
      have noLine : c ≠ '\n' := fun same => broken (line same)
      unfold dropBreak afterBreak?
      split
      next same => exact absurd (List.cons.inj same).1 noLine
      next same => exact absurd (List.cons.inj same).1 noReturn
      next => rfl

/-- Only a text that starts with a break is written with one at the front. -/
theorem front_escapeLong (s t : List Char) :
    ∀ c ∈ (escapeLong 0 s ++ '"' :: t).head?, c ≠ '\r' ∧ (c = '\n' → '\n' ∈ s) := by
  cases s with
  | nil =>
    rintro c ⟨⟩
    exact ⟨by decide, fun same => absurd same (by decide)⟩
  | cons c u =>
    by_cases line : c = '\n'
    · rw [line]
      rintro d ⟨⟩
      exact ⟨by decide, fun _ => List.mem_cons_self⟩
    · by_cases quote : c = '"'
      · rw [quote]
        rintro d ⟨⟩
        exact ⟨by decide, fun same => absurd same (by decide)⟩
      · obtain ⟨d, more, front, -, noLine, noReturn⟩ := exists_escape_eq_cons c
        rw [escapeLong_cons quote line, front]
        rintro d' ⟨⟩
        exact ⟨noReturn, fun same => absurd same noLine⟩

theorem readQuoted_basic {body : List Char} (single : ∀ more, body ≠ '"' :: '"' :: more) :
    readQuoted ('"' :: body) = readBasic body := by
  rw [readQuoted]
  exact fun more same => single more same

theorem readQuoted_literal {body : List Char} (single : ∀ more, body ≠ '\'' :: '\'' :: more) :
    readQuoted ('\'' :: body) = readLiteral body := by
  rw [readQuoted]
  exact fun more same => single more same

section

variable {s rest : List Char} (ends : EndsQuotes rest)

include ends

theorem readQuoted_write_basic : readQuoted (QuoteStyle.basic.write s ++ rest) = some (s, rest) := by
  have read := readBasic_flatMap_escape s rest
  have written : QuoteStyle.basic.write s ++ rest = '"' :: (s.flatMap escape ++ '"' :: rest) := by
    simp [QuoteStyle.write]
  rw [written, readQuoted_basic ?_, read]
  intro more same
  cases s with
  | nil =>
    rw [List.flatMap_nil, List.nil_append] at same
    exact (ends '"' (by rw [(List.cons.inj same).2]; rfl)).1 rfl
  | cons c t =>
    obtain ⟨d, behind, front, other, -, -⟩ := exists_escape_eq_cons c
    rw [List.flatMap_cons, front] at same
    exact other (List.cons.inj same).1

theorem readQuoted_write_literal (printable : ∀ c ∈ s, isPrintable c = true) (noQuote : '\'' ∉ s) :
    readQuoted (QuoteStyle.literal.write s ++ rest) = some (s, rest) := by
  have read := readLiteral_append printable noQuote rest
  have written : QuoteStyle.literal.write s ++ rest = '\'' :: (s ++ '\'' :: rest) := by
    simp [QuoteStyle.write]
  rw [written, readQuoted_literal ?_, read]
  intro more same
  cases s with
  | nil => exact (ends '\'' (by rw [(List.cons.inj same).2]; rfl)).2 rfl
  | cons c t =>
    obtain ⟨rfl, -⟩ := List.cons.inj same
    exact noQuote List.mem_cons_self

theorem readQuoted_write_longBasic :
    readQuoted (QuoteStyle.longBasic.write s ++ rest) = some (s, rest) := by
  have read := readLongBasic_escapeLong (fun c front => (ends c front).1) s (Nat.zero_le 2)
  have written : QuoteStyle.longBasic.write s ++ rest =
      '"' :: '"' :: '"' :: (leadingBreak s ++ (escapeLong 0 s ++ '"' :: '"' :: '"' :: rest)) := by
    simp [QuoteStyle.write]
  rw [written, readQuoted, dropBreak_leadingBreak (front_escapeLong s _), read]

theorem readQuoted_write_longLiteral (plain : ∀ c ∈ s, needsCode c = false)
    (single : hasTriple '\'' s = false) :
    readQuoted (QuoteStyle.longLiteral.write s ++ rest) = some (s, rest) := by
  have read := readLongLiteral_append plain single fun c front => (ends c front).2
  have written : QuoteStyle.longLiteral.write s ++ rest =
      '\'' :: '\'' :: '\'' :: (leadingBreak s ++ (s ++ '\'' :: '\'' :: '\'' :: rest)) := by
    simp [QuoteStyle.write]
  rw [written, readQuoted, dropBreak_leadingBreak ?_, read]
  cases s with
  | nil =>
    rintro c ⟨⟩
    exact ⟨by decide, fun same => absurd same (by decide)⟩
  | cons c t =>
    rintro d ⟨⟩
    refine ⟨?_, fun same => same ▸ List.mem_cons_self⟩
    rintro rfl
    exact absurd (plain _ List.mem_cons_self) (by decide)

/-- A quoted text is read back, as long as no more quotes follow it. -/
theorem readQuoted_quotedText : readQuoted (quotedText s ++ rest) = some (s, rest) := by
  unfold quotedText QuoteStyle.of
  simp only
  split
  · exact readQuoted_write_basic ends
  · split
    next literal =>
      simp only [Bool.and_eq_true, Bool.not_eq_true', List.any_eq_false, List.contains_eq_mem,
        decide_eq_false_iff_not] at literal
      obtain ⟨⟨plain, unbroken⟩, noQuote⟩ := literal
      refine readQuoted_write_literal ends (fun c member => ?_) noQuote
      refine isPrintable_of_needsCode_eq_false (Bool.eq_false_iff.2 (plain c member)) ?_
      rintro rfl
      exact unbroken member
    next =>
      split
      · exact readQuoted_write_longBasic ends
      · split
        next literal =>
          simp only [Bool.and_eq_true, Bool.not_eq_true', List.any_eq_false] at literal
          exact readQuoted_write_longLiteral ends
            (fun c member => Bool.eq_false_iff.2 (literal.1 c member)) literal.2
        next =>
          split
          · exact readQuoted_write_longBasic ends
          · exact readQuoted_write_basic ends

end

end Outlay.Toml
