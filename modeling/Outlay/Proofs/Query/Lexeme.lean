import Outlay.Proofs.Query.Grammar

/-!
# Lexemes and what stands behind them

How far a lexeme depends on the text behind it: not at all behind a blank, but for a quote that
was never closed.
-/

namespace Outlay.Query

open Text

theorem MaximalRun.append {p : Char → Bool} {run rest back : List Char}
    (maximal : MaximalRun p run rest) (boundary : ∀ c ∈ back.head?, p c = false) :
    MaximalRun p run (rest ++ back) := by
  refine ⟨maximal.holds, ?_⟩
  cases rest with
  | nil => exact boundary
  | cons c rest => exact maximal.stops

theorem isNameChar_eq_false_of_isBlank {c : Char} (h : isBlank c = true) : isNameChar c = false := by
  have underscore : c ≠ '_' := by
    rintro rfl
    exact absurd h (by decide)
  simp [isNameChar, isLetter_eq_false_of_isBlank h, underscore]

theorem isNameChar_of_isAlpha {c : Char} (h : c.isAlpha = true) : isNameChar c = true := by
  rw [isNameChar, isLetter_of_isAlpha h, Bool.true_or]

theorem Operator.isBlank_eq_false_of_mem_symbol (op : Operator) :
    ∀ c ∈ op.symbol.toList, isBlank c = false := by
  have visible : op.symbol.toList.all (!isBlank ·) = true := by cases op <;> decide
  simpa using visible

theorem Operator.exists_symbol_cons {op : Operator} (h : op ≠ contains) :
    ∃ c more, op.symbol.toList = c :: more ∧ isNameChar c = false := by
  cases op with
  | contains => exact absurd rfl h
  | equal | notEqual | greater | atLeast | less | atMost => exact ⟨_, _, rfl, by decide⟩

theorem startsClosed_iff {s : List Char} : StartsClosed s ↔ ∃ body, s = '"' :: body ∧ '"' ∈ body := by
  constructor
  · rintro ⟨value, rest, -, rfl⟩
    exact ⟨value ++ '"' :: rest, rfl, by simp⟩
  · rintro ⟨body, rfl, closing⟩
    obtain ⟨value, rest, rfl, unquoted⟩ := List.eq_append_cons_of_mem closing
    exact ⟨value, rest, unquoted, rfl⟩

/-- A value is spelled in quotes, or it is its own lexeme. -/
theorem SpellsValue.quoted_or_bare {lexeme rest value : List Char}
    (spelled : SpellsValue lexeme rest value) :
    (lexeme = '"' :: (value ++ ['"']) ∧ '"' ∉ value) ∨
      (lexeme = value ∧ value ≠ [] ∧ (∀ c ∈ value, isBlank c = false) ∧
        ¬StartsClosed (value ++ rest)) := by
  cases spelled with
  | quoted unquoted => exact .inl ⟨rfl, unquoted⟩
  | bare nonempty maximal notClosed =>
    exact .inr ⟨rfl, nonempty, by simpa using maximal.holds, notClosed⟩

theorem SpellsValue.startsVisible {lexeme rest value : List Char}
    (spelled : SpellsValue lexeme rest value) : StartsVisible lexeme := by
  rcases spelled.quoted_or_bare with ⟨rfl, -⟩ | ⟨rfl, nonempty, visible, -⟩
  · exact ⟨_, _, rfl, by decide⟩
  · obtain ⟨c, more, rfl⟩ := List.exists_cons_of_ne_nil nonempty
    exact ⟨c, more, rfl, visible c (by simp)⟩

theorem StartsVisible.exists_spellsValue {s : List Char} (visible : StartsVisible s) :
    ∃ lexeme rest value, s = lexeme ++ rest ∧ SpellsValue lexeme rest value := by
  obtain ⟨lexeme, whole, spelled⟩ := filterValue?_eq_some_iff.1 (filterValue?_eq_some_word visible)
  exact ⟨lexeme, _, _, whole, spelled⟩

/-- A value that starts with a quote is one whose quote is never closed. -/
theorem SpellsValue.open_of_head? {lexeme rest value : List Char}
    (spelled : SpellsValue lexeme rest value) (opens : value.head? = some '"') :
    lexeme = value ∧ ∃ body, value ++ rest = '"' :: body ∧ '"' ∉ body := by
  rcases spelled.quoted_or_bare with ⟨-, unquoted⟩ | ⟨rfl, -, -, notClosed⟩
  · exact absurd (List.mem_of_head? opens) unquoted
  · obtain ⟨body, rfl⟩ := List.head?_eq_some_iff.1 opens
    exact ⟨rfl, body ++ rest, rfl, fun closing => notClosed (startsClosed_iff.2 ⟨_, rfl, closing⟩)⟩

/-- A name and the sign of an operator, with a text behind them that can be read as a value. -/
structure Header (name : List Char) (op : Operator) (behind : List Char) : Prop where
  named : name ≠ []
  letters : ∀ c ∈ name, isNameChar c = true
  leading : Operator.leading? (op.symbol.toList ++ behind) = some op
  visible : StartsVisible behind

theorem isBlank_eq_false_of_isNameChar {c : Char} (h : isNameChar c = true) : isBlank c = false := by
  by_contra blank
  rw [Bool.not_eq_false] at blank
  rw [isNameChar_eq_false_of_isBlank blank] at h
  cases h

namespace Header

variable {name behind : List Char} {op : Operator}

theorem scanned (header : Header name op behind) : op ≠ .contains :=
  (Operator.leading?_symbol_iff.1 header.leading).1

/-- Only the first character behind the sign matters. -/
theorem congr {behind' : List Char} (header : Header name op behind)
    (same : behind'.head? = behind.head?) : Header name op behind' where
  named := header.named
  letters := header.letters
  leading := by
    have single := header.leading
    rw [Operator.leading?_symbol_iff] at single ⊢
    rwa [same]
  visible := by
    obtain ⟨c, more, rfl, visible⟩ := header.visible
    obtain ⟨more', rfl⟩ := List.head?_eq_some_iff.1 same
    exact ⟨c, more', rfl, visible⟩

theorem maximalRun (header : Header name op behind) :
    MaximalRun isNameChar name (op.symbol.toList ++ behind) := by
  obtain ⟨c, more, sign, noName⟩ := Operator.exists_symbol_cons header.scanned
  exact ⟨header.letters, by simpa [sign] using noName⟩

theorem spellsFilter {lexeme rest value : List Char} (header : Header name op (lexeme ++ rest))
    (spelled : SpellsValue lexeme rest value) :
    SpellsFilter (name ++ (op.symbol.toList ++ lexeme)) rest
      (.filter (lowercased (String.ofList name)) op (String.ofList value)) :=
  .mk header.named header.maximalRun header.leading spelled

theorem exists_spellsFilter (header : Header name op behind) :
    ∃ front back token, front ++ back = name ++ (op.symbol.toList ++ behind) ∧
      SpellsFilter front back token := by
  obtain ⟨lexeme, rest, value, rfl, spelled⟩ := header.visible.exists_spellsValue
  exact ⟨_, _, _, by simp, header.spellsFilter spelled⟩

end Header

theorem SpellsFilter.exists_header {front back : List Char} {token : Token}
    (spelled : SpellsFilter front back token) :
    ∃ name op lexeme value, front = name ++ (op.symbol.toList ++ lexeme) ∧
      Header name op (lexeme ++ back) ∧ SpellsValue lexeme back value ∧
      token = .filter (lowercased (String.ofList name)) op (String.ofList value) := by
  cases spelled with
  | @mk name lexeme _ value op named maximal leading spelled =>
    obtain ⟨c, more, rfl, visible⟩ := spelled.startsVisible
    have header : Header name op (c :: more ++ back) :=
      ⟨named, maximal.holds, leading, c, more ++ back, rfl, visible⟩
    exact ⟨name, op, c :: more, value, rfl, header, spelled, rfl⟩

theorem SpellsToken.startsVisible {lexeme rest : List Char} {token : Token}
    (spelled : SpellsToken lexeme rest token) : StartsVisible lexeme := by
  cases spelled with
  | filter spelled =>
    obtain ⟨name, op, valueLexeme, value, rfl, header, -, -⟩ := spelled.exists_header
    obtain ⟨c, more, rfl⟩ := List.exists_cons_of_ne_nil header.named
    exact ⟨c, _, rfl, isBlank_eq_false_of_isNameChar (header.letters c (by simp))⟩
  | text unread valued => exact valued.startsVisible

/-- The token with another value. -/
def Token.withValue (token : Token) (value : String) : Token :=
  match token with
  | .filter field op _ => .filter field op value
  | .text _ => .text value

@[simp] theorem Token.withValue_value (token : Token) : token.withValue token.value = token := by
  cases token <;> rfl

@[simp] theorem Token.value_withValue (token : Token) (value : String) :
    (token.withValue value).value = value := by
  cases token <;> rfl

section Behind

variable {back : List Char} (boundary : ∀ c ∈ back.head?, isBlank c = true)
include boundary

theorem SpellsValue.append {lexeme rest value : List Char} (spelled : SpellsValue lexeme rest value)
    (unclosed : value.head? = some '"' → '"' ∉ back) : SpellsValue lexeme (rest ++ back) value := by
  cases spelled with
  | quoted unquoted => exact .quoted unquoted
  | bare nonempty maximal notClosed =>
    refine .bare nonempty (maximal.append (by simpa using boundary)) ?_
    rw [startsClosed_iff, not_exists] at *
    rintro body ⟨same, closing⟩
    obtain ⟨c, more, rfl⟩ := List.exists_cons_of_ne_nil nonempty
    obtain ⟨rfl, rfl⟩ := List.cons.inj same
    have inside : '"' ∈ more ++ rest := by
      simpa [unclosed rfl] using closing
    exact notClosed _ ⟨rfl, inside⟩

/-- A front without blanks lies before the blank that ends a text. -/
theorem exists_append_of_visible {front more s : List Char}
    (visible : ∀ c ∈ front, isBlank c = false) (same : front ++ more = s ++ back) :
    ∃ middle, s = front ++ middle ∧ more = middle ++ back := by
  rcases List.append_eq_append_iff.1 same with ⟨middle, rfl, rfl⟩ | ⟨excess, rfl, rfl⟩
  · exact ⟨middle, rfl, rfl⟩
  · cases excess with
    | nil => exact ⟨[], by simp, rfl⟩
    | cons c excess =>
      have blank := boundary c rfl
      rw [visible c (by simp)] at blank
      cases blank

/-- No filter comes to be by what stands behind a blank. -/
theorem not_spellsFilter_append {s : List Char}
    (unread : ∀ front rest token, front ++ rest = s → ¬SpellsFilter front rest token)
    (front rest : List Char) (token : Token) (same : front ++ rest = s ++ back) :
    ¬SpellsFilter front rest token := by
  intro spelled
  obtain ⟨name, op, lexeme, value, rfl, header, valued, rfl⟩ := spelled.exists_header
  obtain ⟨c, more, rfl, visible⟩ := valued.startsVisible
  -- Up to the first character of its value the filter lies before the blank.
  have frontVisible : ∀ d ∈ name ++ (op.symbol.toList ++ [c]), isBlank d = false := by
    intro d member
    simp only [List.mem_append, List.mem_singleton] at member
    rcases member with inName | inSign | rfl
    · exact isBlank_eq_false_of_isNameChar (header.letters d inName)
    · exact op.isBlank_eq_false_of_mem_symbol d inSign
    · exact visible
  have whole : name ++ (op.symbol.toList ++ [c]) ++ (more ++ rest) = s ++ back := by
    simpa using same
  obtain ⟨middle, rfl, -⟩ := exists_append_of_visible boundary frontVisible whole
  have within : Header name op (c :: middle) := header.congr rfl
  obtain ⟨front, back, token, same, spelled⟩ := within.exists_spellsFilter
  exact unread front back token (by simpa using same) spelled

/-- A token is a value with a fixed front: with a blank behind them, whatever is read in place of
the value gives the token with that value. -/
theorem SpellsToken.exists_value {lexeme rest : List Char} {token : Token}
    (spelled : SpellsToken lexeme rest token) :
    ∃ front valueLexeme, lexeme = front ++ valueLexeme ∧
      SpellsValue valueLexeme rest token.value.toList ∧
      ∀ lexeme' rest' value', lexeme' ++ rest' = valueLexeme ++ (rest ++ back) →
        SpellsValue lexeme' rest' value' →
        SpellsToken (front ++ lexeme') rest' (token.withValue (String.ofList value')) := by
  cases spelled with
  | filter spelled =>
    obtain ⟨name, op, valueLexeme, value, rfl, header, valued, rfl⟩ := spelled.exists_header
    refine ⟨name ++ op.symbol.toList, valueLexeme, by simp, by simpa [Token.value] using valued, ?_⟩
    intro lexeme' rest' value' same valued'
    obtain ⟨c, more, rfl, -⟩ := valued.startsVisible
    rw [List.append_assoc]
    exact .filter ((header.congr (by rw [same]; rfl)).spellsFilter valued')
  | @text value unread valued =>
    refine ⟨[], lexeme, rfl, by simpa [Token.value] using valued, ?_⟩
    intro lexeme' rest' value' same valued'
    refine .text ?_ valued'
    rw [List.nil_append, same, ← List.append_assoc]
    exact not_spellsFilter_append boundary unread

end Behind

end Outlay.Query
