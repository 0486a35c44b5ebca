import Outlay.Proofs.Decimal.Reading
import Outlay.Proofs.Query.Search

/-!
# Queries up to the case of ASCII letters

The scanner cuts a query at blanks, quotes and signs, none of which is a letter, so it finds the same
tokens up to the case of their values. What a token demands depends on the lowercase form of its
value and on the number read from it, and these do not see case either.
-/

namespace Outlay.Query

open Text

/-- A value and the rest behind it. -/
def foldPair (pair : List Char × List Char) : List Char × List Char :=
  (foldCase pair.1, foldCase pair.2)

theorem isNameChar_toLower (c : Char) : isNameChar c.toLower = isNameChar c :=
  apply_toLower (fun _ alpha => isNameChar_of_isAlpha alpha) c

theorem startsClosed_foldCase_iff {s : List Char} : StartsClosed (foldCase s) ↔ StartsClosed s := by
  have quote : '"'.isAlpha = false := rfl
  cases s with
  | nil => rfl
  | cons c body =>
    simp [startsClosed_iff, toLower_eq_iff quote, mem_foldCase_iff quote]

theorem quoted?_foldCase (s : List Char) : quoted? (foldCase s) = (quoted? s).map foldPair := by
  cases found : quoted? s with
  | none =>
    rw [quoted?_eq_none_iff] at found
    exact quoted?_eq_none_iff.2 (mt startsClosed_foldCase_iff.1 found)
  | some pair =>
    obtain ⟨value, rest⟩ := pair
    obtain ⟨unquoted, rfl⟩ := quoted?_eq_some_iff.1 found
    refine quoted?_eq_some_iff.2 ⟨mt (mem_foldCase_iff rfl).1 unquoted, ?_⟩
    simp only [foldCase_cons, foldCase_append]
    rfl

theorem bareRun_foldCase (s : List Char) : bareRun (foldCase s) = foldPair (bareRun s) := by
  have visible (c : Char) : (!isBlank c.toLower) = !isBlank c := by rw [isBlank_toLower]
  rw [bareRun, takeWhile_foldCase visible, dropWhile_foldCase visible]
  rfl

theorem word_foldCase (s : List Char) : word (foldCase s) = foldPair (word s) := by
  unfold word
  rw [quoted?_foldCase, bareRun_foldCase]
  cases quoted? s <;> rfl

theorem filterValue?_foldCase (s : List Char) :
    filterValue? (foldCase s) = (filterValue? s).map foldPair := by
  unfold filterValue?
  rw [quoted?_foldCase, bareRun_foldCase]
  cases quoted? s with
  | some pair => rfl
  | none =>
    simp only [Option.map_none, foldPair, isEmpty_foldCase]
    split <;> rfl

namespace Operator

theorem isAlpha_eq_false_of_mem_symbol {op : Operator} (h : op ∈ signed) :
    ∀ c ∈ op.symbol.toList, c.isAlpha = false := by
  have signs : signed.all (fun op => op.symbol.toList.all (!·.isAlpha)) = true := by decide
  simpa using List.all_eq_true.1 signs op h

theorem isPrefixOf_of_leading? {s : List Char} {op : Operator} (h : leading? s = some op) :
    op.symbol.toList.isPrefixOf s = true := by
  unfold leading? at h
  have fits := List.find?_some h
  exact fits

theorem leading?_foldCase (s : List Char) : leading? (foldCase s) = leading? s := by
  apply List.find?_congr
  intro op listed
  exact isPrefixOf_foldCase (isAlpha_eq_false_of_mem_symbol listed) s

theorem split?_foldCase (s : List Char) :
    split? (foldCase s) = (split? s).map fun (op, rest) => (op, foldCase rest) := by
  cases found : split? s with
  | none =>
    rw [Option.map_none, Option.eq_none_iff_forall_ne_some]
    rintro ⟨op, rest⟩ split
    have leading := (split?_eq_some_iff.1 split).1
    rw [leading?_foldCase] at leading
    obtain ⟨behind, rfl⟩ := List.isPrefixOf_iff_prefix.1 (isPrefixOf_of_leading? leading)
    rw [split?_eq_some_iff.2 ⟨leading, rfl⟩] at found
    cases found
  | some pair =>
    obtain ⟨op, rest⟩ := pair
    obtain ⟨leading, rfl⟩ := split?_eq_some_iff.1 found
    have letters := isAlpha_eq_false_of_mem_symbol (List.mem_of_find?_eq_some leading)
    refine split?_eq_some_iff.2 ⟨(leading?_foldCase _).trans leading, ?_⟩
    rw [foldCase_append, foldCase_eq_self letters]

end Operator

/-- The token with its value in small letters. -/
def Token.foldCase (token : Token) : Token :=
  token.withValue (String.ofList (Text.foldCase token.value.toList))

theorem foldCase_onField (name : List Char) (op : Operator) (value : List Char) :
    Token.onField (String.ofList (Text.foldCase name)) op (String.ofList (Text.foldCase value)) =
      (Token.onField (String.ofList name) op (String.ofList value)).foldCase := by
  simp [Token.onField, Token.foldCase, Token.withValue, Token.value, lowercased]

theorem filter?_foldCase (s : List Char) :
    filter? (Text.foldCase s) =
      (filter? s).map fun (token, rest) => (token.foldCase, Text.foldCase rest) := by
  unfold filter?
  simp only [takeWhile_foldCase isNameChar_toLower, dropWhile_foldCase isNameChar_toLower,
    isEmpty_foldCase, Operator.split?_foldCase]
  split
  next => rfl
  next =>
    cases Operator.split? (s.dropWhile isNameChar) with
    | none => rfl
    | some found =>
      obtain ⟨op, rest⟩ := found
      simp only [Option.map_some, filterValue?_foldCase, Option.map_map]
      apply congrArg (Option.map · (filterValue? rest))
      funext pair
      exact Prod.ext (foldCase_onField _ op pair.1) rfl

theorem nextToken_foldCase (s : List Char) :
    nextToken (Text.foldCase s) = ((nextToken s).1.foldCase, Text.foldCase (nextToken s).2) := by
  unfold nextToken
  rw [filter?_foldCase, word_foldCase]
  cases filter? s with
  | some found => rfl
  | none => simp [foldPair, Token.foldCase, Token.value, Token.withValue]

theorem startsVisible_foldCase {s : List Char} (visible : StartsVisible s) :
    StartsVisible (Text.foldCase s) := by
  obtain ⟨c, more, rfl, h⟩ := visible
  exact ⟨c.toLower, Text.foldCase more, rfl, (isBlank_toLower c).trans h⟩

theorem scan_foldCase (s : List Char) : scan (Text.foldCase s) = (scan s).map Token.foldCase := by
  have blanks {gap : List Char} (h : ∀ c ∈ gap, isBlank c = true) :
      ∀ c ∈ Text.foldCase gap, isBlank c = true := by
    simpa [Text.foldCase, isBlank_toLower] using h
  induction s using scan_induction with
  | blank gap h => rw [scan_of_blank h, scan_of_blank (blanks h), List.map_nil]
  | token gap s h visible ih =>
    rw [foldCase_append, scan_blank_append (blanks h), scan_blank_append h,
      scan_of_startsVisible (startsVisible_foldCase visible), scan_of_startsVisible visible,
      nextToken_foldCase, ih, List.map_cons]

namespace Predicate

theorem bound?_foldCase (value : List Char) :
    bound? (String.ofList (Text.foldCase value)) = bound? (String.ofList value) := by
  simp only [bound?, String.toList_ofList, trim_foldCase, readFloat?_foldCase]

/-- A token in small letters demands the same. -/
theorem ofToken_foldCase (token : Token) : ofToken token.foldCase = ofToken token := by
  cases token with
  | text value => simp [Token.foldCase, Token.withValue, Token.value, ofToken, lowercased]
  | filter field op value =>
    have bound := bound?_foldCase value.toList
    rw [String.ofList_toList] at bound
    simp [Token.foldCase, Token.withValue, Token.value, ofToken, lowercased, bound]

end Predicate

theorem predicates_parse (text : String) :
    (parse text).predicates = (scanText text).map Predicate.ofToken := by
  rw [parse_eq_ofTokens]
  rfl

theorem predicates_of_sameButCase {query query' : String} (same : SameButCase query query') :
    (parse query).predicates = (parse query').predicates := by
  have folded (text : String) : (parse text).predicates =
      (scan (Text.foldCase text.toList)).map Predicate.ofToken := by
    rw [predicates_parse, scan_foldCase, List.map_map]
    exact List.map_congr_left fun token _ => (Predicate.ofToken_foldCase token).symm
  rw [folded query, same, folded query']

/-- The records have one amount, and texts that differ at most in the case of ASCII letters. -/
structure Similar (t t' : Transaction) : Prop where
  description : SameButCase t.description t'.description
  category : SameButCase t.category t'.category
  amount : t.amount.value = t'.amount.value

theorem Predicate.accepts_of_similar (p : Predicate) {t t' : Transaction} (similar : Similar t t') :
    p.accepts t = p.accepts t' := by
  have description := similar.description.lowercase_eq
  have category := similar.category.lowercase_eq
  cases p with
  | always => rfl
  | text needle => simp only [accepts, description, category]
  | onText field op expected =>
    cases field with
    | category => simp only [accepts, TextField.of, lowercased, category]
    | description => simp only [accepts, TextField.of, lowercased, description]
  | onAmount op value => simp only [accepts, similar.amount]

theorem findIdxs_eq_of_forall₂ {α : Type} {r : α → α → Prop} {p q : α → Bool} {l l' : List α}
    (related : List.Forall₂ r l l') (same : ∀ a b, r a b → p a = q b) (start : Nat) :
    l.findIdxs p start = l'.findIdxs q start := by
  induction related generalizing start with
  | nil => rfl
  | @cons a b l l' first _ ih => rw [List.findIdxs_cons, List.findIdxs_cons, same a b first, ih]

/-- A search hits the same positions whatever the case of ASCII letters in the query and in the texts
of the records, and what it keeps are the records there. -/
theorem hits_of_similar {query query' : String} {records records' : List Transaction}
    (queries : SameButCase query query') (similar : List.Forall₂ Similar records records') :
    hits query records = hits query' records' ∧
      (search query records).1 = (hits query records).filterMap (records[·]?) ∧
      (search query' records').1 = (hits query' records').filterMap (records'[·]?) := by
  refine ⟨?_, search_eq_filterMap_hits query records, search_eq_filterMap_hits query' records'⟩
  apply findIdxs_eq_of_forall₂ similar
  intro t t' pair
  unfold accepts
  rw [predicates_of_sameButCase queries]
  apply congrArg (parse query').predicates.all
  funext p
  exact p.accepts_of_similar pair

/-- Where a sigma is read as a final one depends on the letter behind it, but not on its case. -/
theorem hits_of_similar_sigma :
    let query := "Desc=\"ΣaΣ Bar\" AMT<1E3 !=iNF"
    let query' := "dESC=\"ΣAΣ bAR\" amt<1e3 !=InF"
    let day : Calendar.Day := ⟨2024, 2, 29, by decide⟩
    let records : List Transaction :=
      [⟨1, "ΣaΣ bar", .ofFloat 12.5, "!=INF", day, .midnight⟩,
        ⟨2, "σaσ bar", .ofFloat 12.5, "!=INF", day, .midnight⟩,
        ⟨3, "σAς BAR", .ofFloat 999.0, "!=inf", day, .midnight⟩]
    let records' : List Transaction :=
      [⟨1, "ΣAΣ BAR", .ofFloat 12.5, "!=inf", day, .midnight⟩,
        ⟨2, "σAσ bar", .ofFloat 12.5, "!=INF", day, .midnight⟩,
        ⟨3, "σaς bar", .ofFloat 999.0, "!=InF", day, .midnight⟩]
    SameButCase query query' ∧ List.Forall₂ Similar records records' ∧
      hits query records = [0, 2] ∧ hits query' records' = [0, 2] := by
  intro query query' day records records'
  have queries : SameButCase query query' := by decide +kernel
  have similar : List.Forall₂ Similar records records' :=
    .cons ⟨by decide +kernel, by decide +kernel, rfl⟩
      (.cons ⟨by decide +kernel, by decide +kernel, rfl⟩
        (.cons ⟨by decide +kernel, by decide +kernel, rfl⟩ .nil))
  have first : hits query records = [0, 2] := by decide +kernel
  exact ⟨queries, similar, first, (hits_of_similar queries similar).1.symm.trans first⟩

end Outlay.Query
