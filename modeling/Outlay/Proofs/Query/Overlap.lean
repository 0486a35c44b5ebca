import Outlay.Prefilter
import Outlay.Proofs.Binary64.Order
import Outlay.Proofs.Decimal.Reading
import Outlay.Proofs.Query.Search
import Outlay.Proofs.Query.Spelling

/-!
# What a query and a prefilter can both say

A least amount is the same demand in a query and in a prefilter, whatever the spelling of the number
and even if it is none. A category in quotes asks for less than a prefilter does, as the case of
letters does not count in a query.
-/

namespace Outlay.Query

open Text

theorem search_fst_of_scanText {text : String} {token : Token} (alone : scanText text = [token])
    (records : List Transaction) : (search text records).1 = records.filter token.accepts := by
  rw [search_fst, alone]
  apply List.filter_congr
  intro t _
  rw [List.all_cons, List.all_nil, Bool.and_true]

/-- A filter whose name is spelled in small ASCII letters is scanned as it stands. -/
theorem scanText_filter {text name value : String} {op : Operator} {lexeme : List Char}
    (letters : name.toList.all Char.isAlpha = true) (small : lowercased name = name)
    (named : name ≠ "") (leading : Operator.leading? (op.symbol.toList ++ lexeme) = some op)
    (valued : SpellsValue lexeme [] value.toList)
    (whole : text.toList = name.toList ++ (op.symbol.toList ++ lexeme)) :
    scanText text = [.filter name op value] := by
  have header : Header name.toList op (lexeme ++ []) := by
    rw [List.append_nil]
    exact {
      named := mt String.toList_eq_nil_iff.1 named
      letters := fun c member => isNameChar_of_isAlpha (List.all_eq_true.1 letters c member)
      leading := leading
      visible := valued.startsVisible }
  have spelled := header.spellsFilter valued
  rw [String.ofList_toList, String.ofList_toList, small] at spelled
  rw [scanText, whole]
  exact Token.scan_of_spellsToken (.filter spelled)

/-! A least amount. -/

section LeastAmount

variable {number : String} {least : Float} (read : readFloat? number.toList = some least)
include read

/-- The text of a number holds neither blanks nor quotes, so it is a value as it stands. -/
theorem spellsValue_number : SpellsValue number.toList [] number.toList := by
  have chars := isNumberChar_of_readFloat? read
  have maximal : MaximalRun (!isBlank ·) number.toList [] := by
    constructor
    · intro c member
      rw [(chars c member).isBlank_eq_false, Bool.not_false]
    · rintro c ⟨⟩
  have notClosed : ¬StartsClosed (number.toList ++ []) := by
    rw [List.append_nil, startsClosed_iff]
    rintro ⟨body, opens, -⟩
    exact (chars '"' (by simp [opens])).ne_quote rfl
  exact .bare (ne_nil_of_readFloat? read) maximal notClosed

theorem scanText_atLeast : scanText ("amount>=" ++ number) = [.filter "amount" .atLeast number] := by
  have leading : Operator.leading? (Operator.atLeast.symbol.toList ++ number.toList) = some .atLeast := by
    simp [Operator.leading?_symbol_iff]
  exact scanText_filter (by decide) (by decide +kernel) (by decide) leading (spellsValue_number read)
    String.toList_append

theorem bound?_number : Predicate.bound? number = if least.isNaN then none else some least := by
  have trimmed : trim number.toList = number.toList :=
    (isTrimmed_of_forall fun c member => (isNumberChar_of_readFloat? read c member).isBlank_eq_false).trim_eq
  rw [Predicate.bound?, trimmed, read, Option.filter_some]
  cases least.isNaN <;> rfl

/-- The query demands what the prefilter does: a least amount that is no number is no bound for
either. -/
theorem accepts_atLeast {t : Transaction} (isNumber : t.amount.value.isNaN = false) :
    Token.accepts (.filter "amount" .atLeast number) t =
      Prefilter.accepts { least := some least } t := by
  have kept : Prefilter.accepts { least := some least } t = !decide (t.amount.value < least) := rfl
  have field : Field.ofName? "amount" = some .amount := by decide +kernel
  rw [kept, Token.accepts]
  simp only [Predicate.ofToken, field, bound?_number read, reduceCtorEq, if_false]
  cases none : least.isNaN with
  | true =>
    rw [decide_eq_false (Binary64.not_lt_of_isNaN none)]
    rfl
  | false =>
    have order := Binary64.not_lt_iff_le isNumber none
    change decide (least ≤ t.amount.value) = _
    rw [← decide_eq_decide.2 order, decide_not]

end LeastAmount

/-! A category. -/

theorem scanText_category {category : String} (unquoted : '"' ∉ category.toList) :
    scanText ("cat=\"" ++ category ++ "\"") = [.filter "cat" .equal category] := by
  have leading : Operator.leading?
      (Operator.equal.symbol.toList ++ '"' :: (category.toList ++ ['"'])) = some .equal := by
    simp [Operator.leading?_symbol_iff]
  have whole : ("cat=\"" ++ category ++ "\"").toList =
      "cat".toList ++ (Operator.equal.symbol.toList ++ '"' :: (category.toList ++ ['"'])) := by
    rw [String.toList_append, String.toList_append]
    exact List.append_assoc _ _ _
  exact scanText_filter (by decide) (by decide +kernel) (by decide) leading (.quoted unquoted) whole

theorem accepts_category {category : String} (named : category ≠ Prefilter.anyCategory)
    {t : Transaction} (kept : Prefilter.accepts { category := some category } t = true) :
    Token.accepts (.filter "cat" .equal category) t = true := by
  have same : t.category = category := by simpa [Prefilter.accepts_iff, named] using kept
  subst same
  exact beq_self_eq_true (lowercased t.category)

/-- A least amount in a query keeps what it keeps as a prefilter, if all amounts are numbers. A
category in quotes keeps at least what it keeps as a prefilter. -/
theorem search_overlaps_prefilter (records : List Transaction) :
    (∀ (number : String) (least : Float), readFloat? number.toList = some least →
      (∀ t ∈ records, t.amount.value.isNaN = false) →
        (search ("amount>=" ++ number) records).1 = Prefilter.apply { least := some least } records) ∧
    ∀ category : String, '"' ∉ category.toList → category ≠ "All" →
      (Prefilter.apply { category := some category } records).Sublist
        (search ("cat=\"" ++ category ++ "\"") records).1 := by
  constructor
  · intro number least read numbers
    rw [search_fst_of_scanText (scanText_atLeast read)]
    apply List.filter_congr
    intro t member
    exact accepts_atLeast read (numbers t member)
  · intro category unquoted named
    rw [search_fst_of_scanText (scanText_category unquoted)]
    apply List.monotone_filter_right
    intro t kept
    exact accepts_category named kept

/-- A least amount in scientific notation keeps the same records both ways, and a category in quotes
keeps one more than the prefilter. -/
theorem search_overlaps_prefilter_lateNight :
    let day : Calendar.Day := ⟨2024, 2, 29, by decide⟩
    let snack : Transaction := ⟨1, "Snack", .ofFloat 12.5, "late Night", day, .midnight⟩
    let tea := { snack with amount := .ofFloat 3.0 }
    let taxi := { snack with category := "Late night" }
    let records := [snack, tea, taxi]
    readFloat? "+1.25E1".toList = some 12.5 ∧ (∀ t ∈ records, t.amount.value.isNaN = false) ∧
      (search "amount>=+1.25E1" records).1 = Prefilter.apply { least := some 12.5 } records ∧
      Prefilter.apply { least := some 12.5 } records = [snack, taxi] ∧
      '"' ∉ "late Night".toList ∧ "late Night" ≠ "All" ∧
      Prefilter.apply { category := some "late Night" } records = [snack, tea] ∧
      (Prefilter.apply { category := some "late Night" } records).Sublist
        (search "cat=\"late Night\"" records).1 ∧
      (search "cat=\"late Night\"" records).1 = records := by
  intro day snack tea taxi records
  have read : readFloat? "+1.25E1".toList = some 12.5 := by decide +kernel
  have numbers : ∀ t ∈ records, t.amount.value.isNaN = false := by decide +kernel
  have unquoted : '"' ∉ "late Night".toList := by decide
  have named : "late Night" ≠ "All" := by decide
  obtain ⟨amounts, categories⟩ := search_overlaps_prefilter records
  exact ⟨read, numbers, amounts _ _ read numbers, by decide +kernel, unquoted, named, by decide +kernel,
    categories _ unquoted named, by decide +kernel⟩

end Outlay.Query
