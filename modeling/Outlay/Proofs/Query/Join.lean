import Outlay.Proofs.Query.Search

/-!
# Queries joined by blanks

The tokens of two joined queries are those of the first and then those of the second, exactly if no
open quote of the first meets a quote of the second. Searching then narrows by the first query and
goes on with the second.
-/

namespace Outlay.Query

open Text

/-- The value starts with a quote, which was never closed. -/
def Token.StartsWithQuote (token : Token) : Prop := token.value.toList.head? = some '"'

instance (token : Token) : Decidable token.StartsWithQuote :=
  inferInstanceAs (Decidable (_ = _))

section Behind

variable {back : List Char} (boundary : ∀ c ∈ back.head?, isBlank c = true)
include boundary

theorem nextToken_append {s : List Char} (visible : StartsVisible s)
    (unclosed : (nextToken s).1.StartsWithQuote → '"' ∉ back) :
    nextToken (s ++ back) = ((nextToken s).1, (nextToken s).2 ++ back) := by
  cases step : nextToken s with
  | mk token rest =>
    rw [step] at unclosed
    obtain ⟨lexeme, rfl, spelled⟩ := (nextToken_eq_iff visible).1 step
    obtain ⟨front, valueLexeme, rfl, valued, replace⟩ := spelled.exists_value boundary
    have spelled' := replace valueLexeme (rest ++ back) _ rfl (valued.append boundary unclosed)
    rw [String.ofList_toList, Token.withValue_value] at spelled'
    exact (nextToken_eq_iff (visible.append back)).2 ⟨_, by simp, spelled'⟩

/-- A quote behind the blank closes the open one, and then the value has none. -/
theorem not_startsWithQuote_append {s : List Char} (visible : StartsVisible s)
    (opens : (nextToken s).1.StartsWithQuote) (closing : '"' ∈ back) :
    ¬(nextToken (s ++ back)).1.StartsWithQuote := by
  cases step : nextToken s with
  | mk token rest =>
    rw [step] at opens
    obtain ⟨lexeme, rfl, spelled⟩ := (nextToken_eq_iff visible).1 step
    obtain ⟨front, valueLexeme, rfl, valued, replace⟩ := spelled.exists_value boundary
    obtain ⟨rfl, body, opened, -⟩ := valued.open_of_head? opens
    obtain ⟨value, rest', same, unquoted⟩ := List.eq_append_cons_of_mem
      (List.mem_append_right body closing)
    have closed : '"' :: (value ++ ['"']) ++ rest' = token.value.toList ++ (rest ++ back) := by
      rw [← List.append_assoc token.value.toList, opened, List.cons_append, List.cons_append, same]
      simp
    have joined : front ++ token.value.toList ++ rest ++ back =
        front ++ '"' :: (value ++ ['"']) ++ rest' := by
      rw [List.append_assoc front ('"' :: _), closed]
      simp
    have spelled' := replace _ rest' value closed (.quoted unquoted)
    rw [(nextToken_eq_iff (visible.append back)).2 ⟨_, joined, spelled'⟩]
    intro starts
    simp only [Token.StartsWithQuote, Token.value_withValue, String.toList_ofList] at starts
    exact unquoted (List.mem_of_head? starts)

theorem scan_append_iff (s : List Char) :
    scan (s ++ back) = scan s ++ scan back ↔
      (∀ token ∈ scan s, ¬token.StartsWithQuote) ∨ '"' ∉ back := by
  induction s using scan_induction with
  | blank gap h => simp [scan_blank_append h, scan_of_blank h]
  | token gap s h visible ih =>
    rw [List.append_assoc, scan_blank_append h, scan_blank_append h,
      scan_of_startsVisible (visible.append back), scan_of_startsVisible visible]
    -- An open quote that is closed from behind makes the first tokens differ; else they agree.
    by_cases leak : (nextToken s).1.StartsWithQuote ∧ '"' ∈ back
    · obtain ⟨opens, closing⟩ := leak
      have differ : (nextToken (s ++ back)).1 ≠ (nextToken s).1 := by
        intro same
        have closed := not_startsWithQuote_append boundary visible opens closing
        rw [same] at closed
        exact closed opens
      simp [differ, opens, closing]
    · have unclosed : (nextToken s).1.StartsWithQuote → '"' ∉ back :=
        fun opens closing => leak ⟨opens, closing⟩
      rw [nextToken_append boundary visible unclosed, List.cons_append, List.cons.injEq, ih]
      simp only [true_and, List.forall_mem_cons]
      by_cases closing : '"' ∈ back
      · have plain : ¬(nextToken s).1.StartsWithQuote := fun opens => unclosed opens closing
        simp [closing, plain]
      · simp [closing]

end Behind

theorem quote_ne_of_isBlank {c : Char} (h : isBlank c = true) : c ≠ '"' := by
  rintro rfl
  exact absurd h (by decide)

/-- Joined queries have the tokens of both exactly if no open quote of the first meets a quote of
the second, and then the second searches what the first has found. -/
theorem scanText_join_iff (first gap second : String) (nonempty : gap ≠ "")
    (blank : isBlankText gap = true) :
    (scanText (first ++ gap ++ second) = scanText first ++ scanText second ↔
      (∀ token ∈ scanText first, ¬token.StartsWithQuote) ∨ '"' ∉ second.toList) ∧
    ((∀ token ∈ scanText first, ¬token.StartsWithQuote) ∨ '"' ∉ second.toList →
      ∀ records : List Transaction,
        (search (first ++ gap ++ second) records).1 = (search second (search first records).1).1 ∧
        (search (first ++ gap ++ second) records).1 =
          (search first records).1.filter (· ∈ (search second records).1)) := by
  have blanks : ∀ c ∈ gap.toList, isBlank c = true := List.all_eq_true.1 blank
  have boundary : ∀ c ∈ (gap.toList ++ second.toList).head?, isBlank c = true := by
    obtain ⟨c, more, same⟩ := List.exists_cons_of_ne_nil (mt String.toList_eq_nil_iff.1 nonempty)
    rw [same] at blanks ⊢
    rintro _ ⟨⟩
    exact blanks c (by simp)
  have quoteless : '"' ∉ gap.toList := fun inside => quote_ne_of_isBlank (blanks _ inside) rfl
  have tokens := scan_append_iff boundary first.toList
  rw [scan_blank_append blanks, List.mem_append, or_iff_right quoteless] at tokens
  have joined : scanText (first ++ gap ++ second) =
      scan (first.toList ++ (gap.toList ++ second.toList)) := by
    simp [scanText]
  rw [← joined] at tokens
  change scanText _ = scanText first ++ scanText second ↔ _ at tokens
  refine ⟨tokens, fun closed records => ?_⟩
  simp only [search_fst, tokens.2 closed, List.all_append]
  constructor
  · rw [List.filter_filter]
    exact List.filter_congr fun t _ => Bool.and_comm _ _
  · rw [List.filter_filter]
    refine List.filter_congr fun t member => ?_
    simp only [List.mem_filter, member, true_and, Bool.decide_eq_true, Bool.and_comm]

/-- The open quote of `desc="late` is closed by the one behind `night`, but not by a plain word. -/
theorem scanText_join_late_night :
    (" " ≠ "" ∧ isBlankText " " = true) ∧
    scanText ("desc=\"late" ++ " " ++ "night\"") ≠
      scanText "desc=\"late" ++ scanText "night\"" ∧
    ∀ records : List Transaction, (search ("desc=\"late" ++ " " ++ "night") records).1 =
      (search "night" (search "desc=\"late" records).1).1 := by
  have blank : isBlankText " " = true := by decide +kernel
  have opened : scanText "desc=\"late" = [.filter "desc" .equal "\"late"] := by
    decide +kernel
  refine ⟨⟨by decide, blank⟩, ?_, fun records => ?_⟩
  · rw [Ne, (scanText_join_iff "desc=\"late" " " "night\"" (by decide) blank).1, opened]
    decide
  · exact ((scanText_join_iff "desc=\"late" " " "night" (by decide) blank).2
      (.inr (by decide)) records).1

end Outlay.Query
