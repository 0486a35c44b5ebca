import Outlay.Proofs.Query.Lexeme
import Outlay.Proofs.Query.Pieces
import Outlay.Proofs.Text.Lowercase

/-!
# Tokens and their spelling

A token that was built by hand need not be what the scanner makes of its spelling: the spelling
puts quotes around a value but escapes nothing. The tokens that do come back are described here
without the scanner.
-/

namespace Outlay.Query

open Text

/-- A value in quotes must not close them itself, and one without must not look like a quoted
string. -/
def RecoverableValue (value : List Char) : Prop :=
  value = [] ∨ (value.any isBlank = true ∧ '"' ∉ value) ∨
    (value ≠ [] ∧ value.any isBlank = false ∧ ¬(value.head? = some '"' ∧ '"' ∈ value.tail))

/-- The token can be told from its spelling. A bare word must not be spelled like a filter; a filter
needs a name in small letters and a sign that does not run on into the value. -/
def Token.Recoverable : Token → Prop
  | .text value => RecoverableValue value.toList ∧
      (value ≠ "" → value.toList.any isBlank = false → filter? value.toList = none)
  | .filter field op value => RecoverableValue value.toList ∧ op ≠ .contains ∧
      field ≠ "" ∧ field.toList.all isNameChar = true ∧ lowercased field = field ∧
      (op = .greater ∨ op = .less → value ≠ "" → value.toList.any isBlank = false →
        value.toList.head? ≠ some '=')

instance (value : List Char) : Decidable (RecoverableValue value) :=
  inferInstanceAs (Decidable (_ ∨ _))

namespace Token

instance (token : Token) : Decidable token.Recoverable := by
  cases token <;> exact inferInstanceAs (Decidable (_ ∧ _))

example : ¬Recoverable (.filter "amount" .greater "=5") := by decide +kernel

theorem toList_spellValue_of_needsQuotes {value : String} (h : needsQuotes value = true) :
    (spellValue value).toList = '"' :: (value.toList ++ ['"']) := by
  simp [spellValue, h]

theorem spellValue_eq_self {value : String} (h : needsQuotes value = false) :
    spellValue value = value := by
  simp [spellValue, h]

theorem needsQuotes_eq_false_iff {value : String} :
    needsQuotes value = false ↔ value ≠ "" ∧ value.toList.any isBlank = false := by
  simp [needsQuotes]

theorem recoverableValue_iff_of_needsQuotes {value : String} (h : needsQuotes value = true) :
    RecoverableValue value.toList ↔ '"' ∉ value.toList := by
  simp only [needsQuotes, Bool.or_eq_true, String.isEmpty_iff] at h
  rcases h with rfl | blank
  · simp [RecoverableValue]
  · have nonempty : value.toList ≠ [] := by
      intro empty
      simp [empty] at blank
    simp [RecoverableValue, blank, nonempty]

theorem recoverableValue_iff_of_bare {value : String} (h : needsQuotes value = false) :
    RecoverableValue value.toList ↔ ¬StartsClosed value.toList := by
  obtain ⟨nonempty, visible⟩ := needsQuotes_eq_false_iff.1 h
  rw [startsClosed_iff]
  cases same : value.toList with
  | nil => exact absurd (String.toList_eq_nil_iff.1 same) nonempty
  | cons c more =>
    rw [same] at visible
    simp [RecoverableValue, visible]

theorem spellsValue_spellValue {value : String} (h : RecoverableValue value.toList) :
    SpellsValue (spellValue value).toList [] value.toList := by
  cases quoted : needsQuotes value with
  | true =>
    rw [toList_spellValue_of_needsQuotes quoted]
    exact .quoted ((recoverableValue_iff_of_needsQuotes quoted).1 h)
  | false =>
    obtain ⟨nonempty, visible⟩ := needsQuotes_eq_false_iff.1 quoted
    rw [spellValue_eq_self quoted]
    refine .bare (mt String.toList_eq_nil_iff.1 nonempty) ⟨by simpa using visible, by simp⟩ ?_
    rw [List.append_nil]
    exact (recoverableValue_iff_of_bare quoted).1 h

theorem recoverableValue_of_spellsValue {value : String} {lexeme rest : List Char}
    (same : (spellValue value).toList = lexeme ++ rest)
    (spelled : SpellsValue lexeme rest value.toList) : RecoverableValue value.toList := by
  cases quoted : needsQuotes value with
  | true =>
    rw [recoverableValue_iff_of_needsQuotes quoted]
    rcases spelled.quoted_or_bare with ⟨-, unquoted⟩ | ⟨-, nonempty, visible, -⟩
    · exact unquoted
    · have bare : needsQuotes value = false :=
        needsQuotes_eq_false_iff.2 ⟨mt String.toList_eq_nil_iff.2 nonempty, by simpa using visible⟩
      rw [quoted] at bare
      cases bare
  | false =>
    rw [recoverableValue_iff_of_bare quoted]
    rw [spellValue_eq_self quoted] at same
    rcases spelled.quoted_or_bare with ⟨rfl, -⟩ | ⟨rfl, -, -, notClosed⟩
    · have lengths := congrArg List.length same
      simp only [List.length_append, List.length_cons, List.length_nil] at lengths
      omega
    · rwa [← same] at notClosed

/-- A lexeme alone is scanned to its token. -/
theorem scan_of_spellsToken {lexeme : List Char} {token : Token}
    (spelled : SpellsToken lexeme [] token) : scan lexeme = [token] := by
  have step : nextToken lexeme = (token, []) :=
    (nextToken_eq_iff spelled.startsVisible).2 ⟨lexeme, by simp, spelled⟩
  rw [scan_of_startsVisible spelled.startsVisible, step]
  simp [scan_of_blank]

theorem exists_spellsToken_of_scan {s : List Char} {token : Token} (h : scan s = [token]) :
    ∃ gap lexeme tail, s = gap ++ (lexeme ++ tail) ∧ (∀ c ∈ gap, isBlank c = true) ∧
      SpellsToken lexeme tail token := by
  obtain ⟨pieces, tail, rfl, cut⟩ := Piece.exists_cut s
  rw [Piece.scan_textOf cut] at h
  obtain ⟨p, rfl, rfl⟩ := List.map_eq_singleton_iff.1 h
  exact ⟨p.gap, p.lexeme, tail, rfl, cut.1.gap_blank, cut.1.spells⟩

theorem startsVisible_spellValue (value : String) : StartsVisible (spellValue value).toList := by
  cases quoted : needsQuotes value with
  | true => exact ⟨_, _, toList_spellValue_of_needsQuotes quoted, by decide⟩
  | false =>
    obtain ⟨nonempty, visible⟩ := needsQuotes_eq_false_iff.1 quoted
    obtain ⟨c, more, same⟩ := List.exists_cons_of_ne_nil (mt String.toList_eq_nil_iff.1 nonempty)
    rw [same] at visible
    exact ⟨c, more, by rw [spellValue_eq_self quoted, same], by simp_all⟩

/-- In quotes no value looks like a filter. -/
theorem filter?_spellValue_eq_none_iff (value : String) :
    filter? (spellValue value).toList = none ↔
      (value ≠ "" → value.toList.any isBlank = false → filter? value.toList = none) := by
  cases quoted : needsQuotes value with
  | true =>
    rw [toList_spellValue_of_needsQuotes quoted]
    have noName : isNameChar '"' = false := by decide
    refine iff_of_true (by simp [filter?, noName]) (fun nonempty visible => ?_)
    rw [needsQuotes_eq_false_iff.2 ⟨nonempty, visible⟩] at quoted
    cases quoted
  | false =>
    rw [spellValue_eq_self quoted]
    obtain ⟨nonempty, visible⟩ := needsQuotes_eq_false_iff.1 quoted
    simp [nonempty, visible]

theorem gap_eq_nil {gap s : List Char} (blanks : ∀ c ∈ gap, isBlank c = true)
    (visible : StartsVisible (gap ++ s)) : gap = [] := by
  obtain ⟨c, more, same, visible⟩ := visible
  cases gap with
  | nil => rfl
  | cons d gap =>
    obtain ⟨rfl, -⟩ := List.cons.inj same
    rw [blanks d (by simp)] at visible
    cases visible

theorem scanText_spell_text_iff (value : String) :
    scanText (spell (.text value)) = [.text value] ↔ Recoverable (.text value) := by
  rw [Recoverable, ← filter?_spellValue_eq_none_iff]
  constructor
  · intro h
    obtain ⟨gap, lexeme, tail, same, blanks, spelled⟩ := exists_spellsToken_of_scan h
    change (spellValue value).toList = _ at same
    obtain rfl := gap_eq_nil blanks (same ▸ startsVisible_spellValue value)
    rw [List.nil_append] at same
    cases spelled with
    | filter spelled => cases spelled
    | @text text unread valued =>
      refine ⟨recoverableValue_of_spellsValue same (by simpa using valued), ?_⟩
      rwa [same, filter?_eq_none_iff]
  · rintro ⟨recoverable, unread⟩
    have valued := spellsValue_spellValue recoverable
    rw [filter?_eq_none_iff] at unread
    have spelled : SpellsToken (spellValue value).toList [] (.text (String.ofList value.toList)) :=
      .text (by simpa using unread) valued
    rw [String.ofList_toList] at spelled
    exact scan_of_spellsToken spelled

theorem toList_spell_filter {op : Operator} (scanned : op ≠ .contains) (field value : String) :
    (spell (.filter field op value)).toList =
      field.toList ++ (op.symbol.toList ++ (spellValue value).toList) := by
  cases op with
  | contains => exact absurd rfl scanned
  | equal | notEqual | greater | atLeast | less | atMost => simp [spell]

/-- The sign of a filter is read as it stands, unless the value's own first character makes it a
longer one. -/
theorem leading?_spellValue_iff {op : Operator} (scanned : op ≠ .contains) (value : String) :
    Operator.leading? (op.symbol.toList ++ (spellValue value).toList) = some op ↔
      (op = .greater ∨ op = .less → value ≠ "" → value.toList.any isBlank = false →
        value.toList.head? ≠ some '=') := by
  rw [Operator.leading?_symbol_iff]
  cases quoted : needsQuotes value with
  | true =>
    rw [toList_spellValue_of_needsQuotes quoted]
    refine iff_of_true ⟨scanned, by simp⟩ (fun _ nonempty visible => ?_)
    rw [needsQuotes_eq_false_iff.2 ⟨nonempty, visible⟩] at quoted
    cases quoted
  | false =>
    rw [spellValue_eq_self quoted]
    obtain ⟨nonempty, visible⟩ := needsQuotes_eq_false_iff.1 quoted
    simp [scanned, nonempty, visible]

/-- The name that is read is the whole field: it cannot start late, since it is not longer in small
letters, and it cannot go on into the sign. -/
theorem eq_field_of_same {gap name behind behind' : List Char} {field : String} {op : Operator}
    (header : Header name op behind)
    (lower : field = lowercased (String.ofList name)) (blanks : ∀ c ∈ gap, isBlank c = true)
    (same : field.toList ++ (op.symbol.toList ++ behind') =
      gap ++ (name ++ (op.symbol.toList ++ behind))) :
    name = field.toList ∧ behind = behind' := by
  have lower' : field.toList = lowercase name := by
    rw [lower, lowercased, String.toList_ofList, String.toList_ofList]
  have inside : ∃ excess, field.toList = gap ++ name ++ excess := by
    rw [← List.append_assoc gap] at same
    rcases List.append_eq_append_iff.1 same with ⟨excess, fronts, backs⟩ | ⟨excess, fronts, -⟩
    · cases excess with
      | nil => exact ⟨[], by rw [fronts]; simp⟩
      | cons d excess =>
        obtain ⟨c, more, sign, noName⟩ := Operator.exists_symbol_cons header.scanned
        have visible := op.isBlank_eq_false_of_mem_symbol c (by simp [sign])
        rw [sign] at backs
        obtain ⟨rfl, -⟩ := List.cons.inj backs
        have member : c ∈ gap ++ name := by simp [fronts]
        rcases List.mem_append.1 member with inGap | inName
        · simp [blanks c inGap] at visible
        · simp [header.letters c inName] at noName
    · exact ⟨excess, fronts⟩
  obtain ⟨excess, whole⟩ := inside
  obtain ⟨rfl, rfl⟩ := eq_nil_of_lowercase_eq_append (lower'.symm.trans whole)
  rw [List.nil_append, List.append_nil] at whole
  rw [whole, List.nil_append, List.append_cancel_left_eq, List.append_cancel_left_eq] at same
  exact ⟨whole.symm, same.symm⟩

theorem scanText_spell_filter_iff (field : String) (op : Operator) (value : String) :
    scanText (spell (.filter field op value)) = [.filter field op value] ↔
      Recoverable (.filter field op value) := by
  constructor
  · intro h
    obtain ⟨gap, lexeme, tail, same, blanks, spelled⟩ := exists_spellsToken_of_scan h
    cases spelled with
    | filter spelled =>
      obtain ⟨name, op', valueLexeme, value', rfl, header, valued, parts⟩ := spelled.exists_header
      obtain ⟨lower, rfl, rfl⟩ := Token.filter.inj parts
      rw [toList_spell_filter header.scanned] at same
      simp only [List.append_assoc] at same
      obtain ⟨rfl, rest⟩ := eq_field_of_same header lower blanks same
      rw [String.ofList_toList] at lower
      refine ⟨recoverableValue_of_spellsValue rest.symm (by simpa using valued), header.scanned,
        mt String.toList_eq_nil_iff.2 header.named, List.all_eq_true.2 header.letters, lower.symm, ?_⟩
      rw [← leading?_spellValue_iff header.scanned, ← rest]
      exact header.leading
  · rintro ⟨recoverable, scanned, nonempty, letters, lower, single⟩
    have header : Header field.toList op ((spellValue value).toList ++ []) := by
      rw [List.append_nil]
      exact ⟨mt String.toList_eq_nil_iff.1 nonempty, List.all_eq_true.1 letters,
        (leading?_spellValue_iff scanned value).2 single, startsVisible_spellValue value⟩
    have spelled := header.spellsFilter (spellsValue_spellValue recoverable)
    rw [String.ofList_toList, String.ofList_toList, lower, ← toList_spell_filter scanned] at spelled
    exact scan_of_spellsToken (.filter spelled)

/-- The tokens that come back from their spelling are the recoverable ones. -/
theorem scanText_spell_iff (token : Token) : scanText token.spell = [token] ↔ token.Recoverable := by
  cases token with
  | text value => exact scanText_spell_text_iff value
  | filter field op value => exact scanText_spell_filter_iff field op value

end Token

end Outlay.Query
