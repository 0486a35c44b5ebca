import Outlay.Proofs.Query.Join
import Outlay.Proofs.Query.Spelling

/-!
# Spelling out a scanned query

The tokens of a query, spelled with a space between them, are scanned to the same tokens if each of
them alone is. An open quote cannot meet another one: behind it the query has no more quotes, so
that no later token needs any in its spelling.
-/

namespace Outlay.Query

open Text

theorem SpellsToken.exists_spellsValue {lexeme rest : List Char} {token : Token}
    (spelled : SpellsToken lexeme rest token) :
    ∃ front valueLexeme, lexeme = front ++ valueLexeme ∧
      SpellsValue valueLexeme rest token.value.toList := by
  have boundary : ∀ c ∈ ([] : List Char).head?, isBlank c = true := by simp
  obtain ⟨front, valueLexeme, whole, valued, -⟩ := spelled.exists_value boundary
  exact ⟨front, valueLexeme, whole, valued⟩

/-- Behind an open quote there is no other. -/
theorem SpellsToken.quote_notMem_rest {lexeme rest : List Char} {token : Token}
    (spelled : SpellsToken lexeme rest token) (opens : token.StartsWithQuote) : '"' ∉ rest := by
  obtain ⟨front, valueLexeme, -, valued⟩ := spelled.exists_spellsValue
  obtain ⟨-, body, opened, unquoted⟩ := valued.open_of_head? opens
  obtain ⟨more, first⟩ := List.head?_eq_some_iff.1 opens
  rw [first] at opened
  obtain ⟨-, rfl⟩ := List.cons.inj opened
  exact fun inside => unquoted (List.mem_append_right more inside)

/-- A token that was read without quotes is spelled without quotes. -/
theorem SpellsToken.quote_notMem_spellValue {lexeme rest : List Char} {token : Token}
    (spelled : SpellsToken lexeme rest token) (unquoted : '"' ∉ lexeme) :
    '"' ∉ (Token.spellValue token.value).toList := by
  obtain ⟨front, valueLexeme, rfl, valued⟩ := spelled.exists_spellsValue
  rcases valued.quoted_or_bare with ⟨rfl, -⟩ | ⟨rfl, nonempty, visible, -⟩
  · simp at unquoted
  · have bare : Token.needsQuotes token.value = false :=
      Token.needsQuotes_eq_false_iff.2
        ⟨mt String.toList_eq_nil_iff.2 nonempty, by simpa using visible⟩
    rw [Token.spellValue_eq_self bare]
    exact fun inside => unquoted (List.mem_append_right front inside)

theorem Operator.quote_notMem_symbol (op : Operator) : '"' ∉ op.symbol.toList := by
  cases op <;> decide

theorem quote_notMem_spell {token : Token} (stable : scanText token.spell = [token])
    (unquoted : '"' ∉ (Token.spellValue token.value).toList) : '"' ∉ token.spell.toList := by
  cases token with
  | text value => exact unquoted
  | filter field op value =>
    obtain ⟨-, scanned, -, letters, -, -⟩ := (Token.scanText_spell_filter_iff field op value).1 stable
    rw [Token.toList_spell_filter scanned]
    simp only [List.mem_append, not_or]
    refine ⟨fun inName => ?_, op.quote_notMem_symbol, unquoted⟩
    exact absurd (List.all_eq_true.1 letters _ inName) (by decide)

/-- The tokens of a text without quotes are spelled without quotes. -/
theorem quote_notMem_spell_of_scan (s : List Char) (unquoted : '"' ∉ s)
    (stable : ∀ token ∈ scan s, scanText token.spell = [token]) :
    ∀ token ∈ scan s, '"' ∉ token.spell.toList := by
  induction s using scan_induction with
  | blank gap h => simp [scan_of_blank h]
  | token gap s h visible ih =>
    rw [scan_blank_append h, scan_of_startsVisible visible] at stable ⊢
    cases step : nextToken s with
    | mk token rest =>
      simp only [step, List.forall_mem_cons] at stable ih ⊢
      obtain ⟨lexeme, whole, spelled⟩ := (nextToken_eq_iff visible).1 step
      simp only [whole, List.mem_append, not_or] at unquoted
      obtain ⟨-, inLexeme, inRest⟩ := unquoted
      exact ⟨quote_notMem_spell stable.1 (spelled.quote_notMem_spellValue inLexeme),
        ih inRest stable.2⟩

/-- Tokens with a space between each two. -/
def spaced (tokens : List Token) : List Char :=
  [' '].intercalate (tokens.map fun token => token.spell.toList)

theorem spaced_cons {tokens : List Token} (token : Token) (more : tokens ≠ []) :
    spaced (token :: tokens) = token.spell.toList ++ (' ' :: spaced tokens) := by
  rw [spaced, List.map_cons, List.intercalate_cons_of_ne_nil (by simpa using more)]
  simp [spaced]

theorem quote_notMem_spaced {tokens : List Token}
    (unquoted : ∀ token ∈ tokens, '"' ∉ token.spell.toList) : '"' ∉ spaced tokens := by
  induction tokens with
  | nil => simp [spaced]
  | cons token tokens ih =>
    rw [List.forall_mem_cons] at unquoted
    by_cases more : tokens = []
    · simpa [more, spaced] using unquoted.1
    · simp [spaced_cons token more, unquoted.1, ih unquoted.2]

theorem scan_spaced (s : List Char) (stable : ∀ token ∈ scan s, scanText token.spell = [token]) :
    scan (spaced (scan s)) = scan s := by
  induction s using scan_induction with
  | blank gap h => simp [scan_of_blank h, spaced, scan_of_blank]
  | token gap s h visible ih =>
    rw [scan_blank_append h, scan_of_startsVisible visible] at stable ⊢
    cases step : nextToken s with
    | mk token rest =>
      simp only [step, List.forall_mem_cons] at stable ih ⊢
      obtain ⟨lexeme, whole, spelled⟩ := (nextToken_eq_iff visible).1 step
      obtain ⟨alone, stable⟩ := stable
      change scan token.spell.toList = [token] at alone
      by_cases more : scan rest = []
      · simpa [more, spaced] using alone
      · have boundary : ∀ d ∈ (' ' :: spaced (scan rest)).head?, isBlank d = true := by
          rintro _ ⟨⟩
          decide
        -- An open quote is kept from being closed: the rest of the query has no quote.
        have closed : (∀ t ∈ scan token.spell.toList, ¬t.StartsWithQuote) ∨
            '"' ∉ ' ' :: spaced (scan rest) := by
          rw [alone, List.forall_mem_singleton]
          by_cases opens : token.StartsWithQuote
          · have spellings := quote_notMem_spell_of_scan rest (spelled.quote_notMem_rest opens) stable
            exact .inr (by simpa using quote_notMem_spaced spellings)
          · exact .inl opens
        have behind : scan (' ' :: spaced (scan rest)) = scan rest := by
          have space : ∀ d ∈ [' '], isBlank d = true := List.forall_mem_singleton.2 (by decide)
          change scan ([' '] ++ spaced (scan rest)) = scan rest
          rw [scan_blank_append space, ih stable]
        rw [spaced_cons token more, (scan_append_iff boundary _).2 closed, alone, behind]
        rfl

/-- Spelling out the tokens of a query and scanning them again changes nothing, if it changes none
of them alone. -/
theorem scanText_intercalate_spell (query : String)
    (stable : ∀ token ∈ scanText query, scanText token.spell = [token]) :
    scanText (" ".intercalate ((scanText query).map Token.spell)) = scanText query := by
  have same : (" ".intercalate ((scanText query).map Token.spell)).toList = spaced (scanText query) := by
    rw [String.toList_intercalate, List.map_map]
    rfl
  rw [scanText, same]
  exact scan_spaced query.toList stable

/-- The quote in front of `open` is never closed, and stays so. -/
theorem scanText_intercalate_spell_open :
    (∀ token ∈ scanText "  desc=\"late night\" X>=5\t\"open", scanText token.spell = [token]) ∧
    scanText (" ".intercalate ((scanText "  desc=\"late night\" X>=5\t\"open").map Token.spell)) =
      [.filter "desc" .equal "late night", .filter "x" .atLeast "5", .text "\"open"] := by
  have stable : ∀ token ∈ scanText "  desc=\"late night\" X>=5\t\"open",
      scanText token.spell = [token] := by decide +kernel
  refine ⟨stable, ?_⟩
  rw [scanText_intercalate_spell _ stable]
  decide +kernel

end Outlay.Query
