import Mathlib.Data.List.TakeWhile
import Outlay.Proofs.Text.Blank
import Outlay.Query.Scan

/-!
# The grammar of queries

What the tokens of a query are, said without the scanner: a lexeme stands in front of a rest, and
the rest decides how far it reaches. Each step of the scanner reads the lexeme of this grammar.
-/

namespace Outlay.Query

open Text

/-- `run` is the front of `run ++ rest` up to the first character without the property. -/
structure MaximalRun (p : Char → Bool) (run rest : List Char) : Prop where
  holds : ∀ c ∈ run, p c = true
  stops : ∀ c ∈ rest.head?, p c = false

namespace MaximalRun

variable {p : Char → Bool} {run rest : List Char}

theorem exists_eq_append (p : Char → Bool) (s : List Char) :
    ∃ run rest, s = run ++ rest ∧ MaximalRun p run rest := by
  refine ⟨s.takeWhile p, s.dropWhile p, List.takeWhile_append_dropWhile.symm, ?_, ?_⟩
  · exact fun _ member => List.mem_takeWhile_imp member
  · intro c first
    have stopped := List.head?_dropWhile_not p s
    rw [Option.mem_def.1 first] at stopped
    simpa using stopped

theorem takeWhile_eq (h : MaximalRun p run rest) : (run ++ rest).takeWhile p = run := by
  rw [List.takeWhile_append_of_pos h.holds]
  cases rest with
  | nil => simp
  | cons c rest => simp [h.stops c rfl]

theorem dropWhile_eq (h : MaximalRun p run rest) : (run ++ rest).dropWhile p = rest := by
  rw [List.dropWhile_append_of_pos h.holds]
  cases rest with
  | nil => rfl
  | cons c rest => simp [h.stops c rfl]

end MaximalRun

namespace Operator

/-- The operators that have a sign, in the order in which the signs are tried. -/
def signed : List Operator := [atLeast, atMost, notEqual, equal, greater, less]

/-- The operator of the first sign that fits the front of a text. -/
def leading? (s : List Char) : Option Operator :=
  signed.find? (fun op => op.symbol.toList.isPrefixOf s)

/-- A sign is read as it stands, unless an equals sign behind it makes it a longer one. -/
theorem leading?_symbol_iff {op : Operator} {rest : List Char} :
    leading? (op.symbol.toList ++ rest) = some op ↔
      op ≠ contains ∧ (op = greater ∨ op = less → rest.head? ≠ some '=') := by
  cases op with
  | greater | less =>
    cases rest with
    | nil => exact iff_of_true rfl (by simp)
    | cons c tail =>
      by_cases h : c = '='
      · subst h
        exact iff_of_false (by rintro ⟨⟩) (by simp)
      · exact iff_of_true (by simp [leading?, signed, symbol, Ne.symm h]) (by simp [h])
  | contains =>
    refine iff_of_false (fun first => ?_) (by simp)
    exact absurd (List.mem_of_find?_eq_some first) (by decide)
  | equal | notEqual | atLeast | atMost => exact iff_of_true rfl (by simp)

theorem split?_eq_some_iff {s rest : List Char} {op : Operator} :
    split? s = some (op, rest) ↔ leading? s = some op ∧ s = op.symbol.toList ++ rest := by
  constructor
  · intro h
    obtain rfl := eq_append_of_split? h
    refine ⟨leading?_symbol_iff.2 ?_, rfl⟩
    unfold split? at h
    split at h <;> cases h
    case h_5 longer _ | h_6 longer _ =>
      refine ⟨by simp, fun _ equals => ?_⟩
      obtain ⟨tail, rfl⟩ := List.head?_eq_some_iff.1 equals
      exact longer tail rfl
    all_goals simp
  · rintro ⟨first, rfl⟩
    obtain ⟨scanned, single⟩ := leading?_symbol_iff.1 first
    cases op with
    | greater =>
      change split? ('>' :: rest) = _
      unfold split?
      split <;> simp_all
    | less =>
      change split? ('<' :: rest) = _
      unfold split?
      split <;> simp_all
    | contains => exact absurd rfl scanned
    | equal | notEqual | atLeast | atMost => rfl

end Operator

/-- The text starts with a quoted string, which the next quote closes. -/
def StartsClosed (s : List Char) : Prop :=
  ∃ value rest, '"' ∉ value ∧ s = '"' :: (value ++ '"' :: rest)

/-- `lexeme` spells a value in front of `rest`: a closed quoted string, or else all characters up
to the next blank. -/
inductive SpellsValue : List Char → List Char → List Char → Prop
  | quoted {value rest} : '"' ∉ value → SpellsValue ('"' :: (value ++ ['"'])) rest value
  | bare {run rest} : run ≠ [] → MaximalRun (!isBlank ·) run rest → ¬StartsClosed (run ++ rest) →
      SpellsValue run rest run

/-- `lexeme` spells a field filter in front of `rest`: a name, a sign and a value, each as long as
it can be. -/
inductive SpellsFilter : List Char → List Char → Token → Prop
  | mk {name lexeme rest value op} : name ≠ [] →
      MaximalRun isNameChar name (op.symbol.toList ++ (lexeme ++ rest)) →
      Operator.leading? (op.symbol.toList ++ (lexeme ++ rest)) = some op →
      SpellsValue lexeme rest value →
      SpellsFilter (name ++ (op.symbol.toList ++ lexeme)) rest
        (.filter (lowercased (String.ofList name)) op (String.ofList value))

/-- `lexeme` spells a token in front of `rest`: a field filter if the text can be read as one, and
a bare word if not. -/
inductive SpellsToken : List Char → List Char → Token → Prop
  | filter {lexeme rest token} : SpellsFilter lexeme rest token → SpellsToken lexeme rest token
  | text {lexeme rest value} :
      (∀ front back token, front ++ back = lexeme ++ rest → ¬SpellsFilter front back token) →
      SpellsValue lexeme rest value → SpellsToken lexeme rest (.text (String.ofList value))

theorem quoted?_eq_some_iff {s value rest : List Char} :
    quoted? s = some (value, rest) ↔ '"' ∉ value ∧ s = '"' :: (value ++ '"' :: rest) := by
  constructor
  · intro h
    unfold quoted? at h
    split at h
    next body =>
      obtain ⟨front, tail, rfl, run⟩ := MaximalRun.exists_eq_append (· != '"') body
      rw [run.takeWhile_eq, run.dropWhile_eq] at h
      cases tail with
      | nil => simp at h
      | cons c tail =>
        obtain ⟨rfl, rfl⟩ : front = value ∧ tail = rest := by simpa using h
        obtain rfl : c = '"' := by simpa using run.stops c rfl
        exact ⟨fun inside => by simpa using run.holds _ inside, rfl⟩
    next => simp at h
  · rintro ⟨unquoted, rfl⟩
    have run : MaximalRun (· != '"') value ('"' :: rest) := by
      refine ⟨fun c member => ?_, by simp⟩
      rw [bne_iff_ne]
      exact fun quote => unquoted (quote ▸ member)
    simp [quoted?, run.takeWhile_eq, run.dropWhile_eq]

theorem quoted?_eq_none_iff {s : List Char} : quoted? s = none ↔ ¬StartsClosed s := by
  rw [Option.eq_none_iff_forall_ne_some]
  simp only [StartsClosed, ne_eq, Prod.forall, quoted?_eq_some_iff, not_exists]

theorem bareRun_eq_iff {s run rest : List Char} :
    bareRun s = (run, rest) ↔ s = run ++ rest ∧ MaximalRun (!isBlank ·) run rest := by
  constructor
  · obtain ⟨run', rest', rfl, maximal⟩ := MaximalRun.exists_eq_append (!isBlank ·) s
    rw [bareRun, maximal.takeWhile_eq, maximal.dropWhile_eq]
    rintro ⟨⟩
    exact ⟨rfl, maximal⟩
  · rintro ⟨rfl, maximal⟩
    rw [bareRun, maximal.takeWhile_eq, maximal.dropWhile_eq]

theorem filterValue?_eq_some_iff {s value rest : List Char} :
    filterValue? s = some (value, rest) ↔ ∃ lexeme, s = lexeme ++ rest ∧ SpellsValue lexeme rest value := by
  constructor
  · intro h
    unfold filterValue? at h
    split at h
    next found closed =>
      obtain rfl : found = (value, rest) := by simpa using h
      obtain ⟨unquoted, rfl⟩ := quoted?_eq_some_iff.1 closed
      exact ⟨'"' :: (value ++ ['"']), by simp, .quoted unquoted⟩
    next notClosed =>
      split at h
      next => simp at h
      next nonempty =>
        have run := Option.some.inj h
        obtain ⟨rfl, maximal⟩ := bareRun_eq_iff.1 run
        rw [run] at nonempty
        exact ⟨value, rfl, .bare (by simpa using nonempty) maximal (quoted?_eq_none_iff.1 notClosed)⟩
  · rintro ⟨lexeme, rfl, spelled⟩
    cases spelled with
    | quoted unquoted =>
      have closed : quoted? ('"' :: (value ++ ['"']) ++ rest) = some (value, rest) :=
        quoted?_eq_some_iff.2 ⟨unquoted, by simp⟩
      simp only [filterValue?, closed]
    | bare nonempty maximal notClosed =>
      have run := bareRun_eq_iff.2 ⟨rfl, maximal⟩
      simp [filterValue?, quoted?_eq_none_iff.2 notClosed, run, nonempty]

/-- The first character of the text is no blank. -/
def StartsVisible (s : List Char) : Prop := ∃ c more, s = c :: more ∧ isBlank c = false

theorem StartsVisible.append {s : List Char} (visible : StartsVisible s) (back : List Char) :
    StartsVisible (s ++ back) := by
  obtain ⟨c, more, rfl, h⟩ := visible
  exact ⟨c, more ++ back, rfl, h⟩

/-- Any such text can be read as a value. -/
theorem filterValue?_eq_some_word {s : List Char} (visible : StartsVisible s) :
    filterValue? s = some (word s) := by
  obtain ⟨c, more, rfl, h⟩ := visible
  unfold filterValue? word
  cases quoted? (c :: more) with
  | some found => rfl
  | none => simp [bareRun, h]

theorem filter?_eq_some_iff {s rest : List Char} {token : Token} :
    filter? s = some (token, rest) ↔ ∃ lexeme, s = lexeme ++ rest ∧ SpellsFilter lexeme rest token := by
  constructor
  · intro h
    obtain ⟨name, behind, rfl, run⟩ := MaximalRun.exists_eq_append isNameChar s
    simp only [filter?, run.takeWhile_eq, run.dropWhile_eq] at h
    split at h
    next => simp at h
    next named =>
      split at h
      next => simp at h
      next op tail found =>
        obtain ⟨⟨value, after⟩, valued, same⟩ := Option.map_eq_some_iff.1 h
        obtain ⟨rfl, rfl⟩ := Prod.mk.inj same
        obtain ⟨leading, rfl⟩ := Operator.split?_eq_some_iff.1 found
        obtain ⟨lexeme, rfl, spelled⟩ := filterValue?_eq_some_iff.1 valued
        exact ⟨_, by simp, .mk (by simpa using named) run leading spelled⟩
  · rintro ⟨lexeme, rfl, spelled⟩
    cases spelled with
    | @mk name lexeme _ value op named run leading spelled =>
      have split := Operator.split?_eq_some_iff.2 ⟨leading, rfl⟩
      have valued := filterValue?_eq_some_iff.2 ⟨lexeme, rfl, spelled⟩
      simp only [filter?, List.append_assoc, run.takeWhile_eq, run.dropWhile_eq, split, valued]
      simp [named, Token.onField]

theorem filter?_eq_none_iff {s : List Char} :
    filter? s = none ↔ ∀ front back token, front ++ back = s → ¬SpellsFilter front back token := by
  rw [Option.eq_none_iff_forall_ne_some]
  constructor
  · rintro h front back token rfl spelled
    exact h _ (filter?_eq_some_iff.2 ⟨front, rfl, spelled⟩)
  · rintro h ⟨token, back⟩ found
    obtain ⟨front, rfl, spelled⟩ := filter?_eq_some_iff.1 found
    exact h front back token rfl spelled

/-- The scanner reads the token of the grammar. -/
theorem nextToken_eq_iff {s rest : List Char} {token : Token} (visible : StartsVisible s) :
    nextToken s = (token, rest) ↔ ∃ lexeme, s = lexeme ++ rest ∧ SpellsToken lexeme rest token := by
  have valued (value : List Char) : word s = (value, rest) ↔
      ∃ lexeme, s = lexeme ++ rest ∧ SpellsValue lexeme rest value := by
    rw [← filterValue?_eq_some_iff, filterValue?_eq_some_word visible, Option.some.injEq]
  unfold nextToken
  cases found : filter? s with
  | some pair =>
    rw [Option.getD_some, ← Option.some.injEq, ← found, filter?_eq_some_iff]
    constructor
    · rintro ⟨lexeme, whole, spelled⟩
      exact ⟨lexeme, whole, .filter spelled⟩
    · rintro ⟨lexeme, whole, filter | ⟨unread, -⟩⟩
      · exact ⟨lexeme, whole, filter⟩
      · rw [← whole, ← filter?_eq_none_iff, found] at unread
        cases unread
  | none =>
    rw [Option.getD_none, Prod.mk.injEq]
    constructor
    · rintro ⟨rfl, behind⟩
      obtain ⟨lexeme, whole, spelled⟩ := (valued _).1 (Prod.ext rfl behind)
      exact ⟨lexeme, whole, .text (by rwa [← whole, ← filter?_eq_none_iff]) spelled⟩
    · rintro ⟨lexeme, whole, filter | ⟨unread, spelled⟩⟩
      · exact absurd filter (filter?_eq_none_iff.1 found lexeme rest token whole.symm)
      · rw [(valued _).2 ⟨lexeme, whole, spelled⟩]
        exact ⟨rfl, rfl⟩

end Outlay.Query
