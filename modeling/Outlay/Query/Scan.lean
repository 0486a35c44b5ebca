import Outlay.Query.Token
import Outlay.Text.Letter

/-!
Splitting a query into tokens. A filter is a name, an operator and a value without blanks between
them; whatever is no filter is a bare word. A quoted value runs to the next quote, and a quote that
is never closed is an ordinary character. Scanning cannot fail.
-/

namespace Outlay.Query

open Text

def isNameChar (c : Char) : Bool := isLetter c || c == '_'

/-- A value between quotes and the rest behind the closing quote. -/
def quoted? : List Char → Option (List Char × List Char)
  | '"' :: body =>
    match body.dropWhile (· != '"') with
    | _ :: rest => some (body.takeWhile (· != '"'), rest)
    | [] => none
  | _ => none

/-- The longest run of characters that are not blank, and the rest. -/
def bareRun (s : List Char) : List Char × List Char :=
  (s.takeWhile (!isBlank ·), s.dropWhile (!isBlank ·))

def word (s : List Char) : List Char × List Char := (quoted? s).getD (bareRun s)

/-- The value of a filter, which may be empty only between quotes. -/
def filterValue? (s : List Char) : Option (List Char × List Char) :=
  match quoted? s with
  | some found => some found
  | none => if (bareRun s).1.isEmpty then none else some (bareRun s)

def filter? (s : List Char) : Option (Token × List Char) :=
  let name := s.takeWhile isNameChar
  if name.isEmpty then none
  else
    match Operator.split? (s.dropWhile isNameChar) with
    | none => none
    | some (op, rest) =>
      (filterValue? rest).map fun (value, rest) =>
        (Token.onField (String.ofList name) op (String.ofList value), rest)

/-- The token at the front of a text that does not start with a blank. -/
def nextToken (s : List Char) : Token × List Char :=
  (filter? s).getD (.text (String.ofList (word s).1), (word s).2)

private theorem length_dropWhile_le {p : Char → Bool} (s : List Char) :
    (s.dropWhile p).length ≤ s.length := by
  simpa using (List.dropWhile_sublist p).length_le

theorem length_quoted?_lt {s value rest : List Char} (h : quoted? s = some (value, rest)) :
    rest.length < s.length := by
  unfold quoted? at h
  split at h
  next body =>
    split at h
    next c tail found =>
      simp only [Option.some.injEq, Prod.mk.injEq] at h
      obtain ⟨-, rfl⟩ := h
      have := length_dropWhile_le (p := (· != '"')) body
      rw [found] at this
      simp only [List.length_cons] at this ⊢
      omega
    next => simp at h
  next => simp at h

theorem length_bareRun_lt {s : List Char} (h : (bareRun s).1 ≠ []) :
    (bareRun s).2.length < s.length := by
  have whole : (bareRun s).1 ++ (bareRun s).2 = s := List.takeWhile_append_dropWhile
  have := congrArg List.length whole
  have := List.length_pos_iff.2 h
  simp only [List.length_append] at *
  omega

theorem length_filterValue?_lt {s value rest : List Char}
    (h : filterValue? s = some (value, rest)) : rest.length < s.length := by
  unfold filterValue? at h
  split at h
  next found eq =>
    obtain rfl : found = (value, rest) := by simpa using h
    exact length_quoted?_lt eq
  next =>
    split at h
    next => simp at h
    next nonempty =>
      simp only [Option.some.injEq] at h
      have := length_bareRun_lt (s := s) (by simpa using nonempty)
      rwa [h] at this

theorem length_filter?_lt {s : List Char} {token : Token} {rest : List Char}
    (h : filter? s = some (token, rest)) : rest.length < s.length := by
  unfold filter? at h
  simp only at h
  split at h
  next => simp at h
  next =>
    split at h
    next => simp at h
    next op tail found =>
      obtain ⟨⟨value, after⟩, hvalue, heq⟩ := Option.map_eq_some_iff.1 h
      obtain rfl : after = rest := (Prod.mk.inj heq).2
      have split := congrArg List.length (Operator.eq_append_of_split? found)
      have := length_filterValue?_lt hvalue
      have := length_dropWhile_le (p := isNameChar) s
      simp only [List.length_append] at split
      omega

/-- Each token takes up at least one character. -/
theorem length_nextToken_lt {c : Char} {s : List Char} (h : isBlank c = false) :
    (nextToken (c :: s)).2.length < (c :: s).length := by
  unfold nextToken
  cases found : filter? (c :: s) with
  | some pair => exact length_filter?_lt found
  | none =>
    simp only [Option.getD_none, word]
    cases quote : quoted? (c :: s) with
    | some pair => exact length_quoted?_lt quote
    | none => exact length_bareRun_lt (by simp [bareRun, h])

/-- The tokens of a query, from left to right. -/
def scan (s : List Char) : List Token :=
  match _front : s.dropWhile isBlank with
  | [] => []
  | c :: rest => (nextToken (c :: rest)).1 :: scan (nextToken (c :: rest)).2
termination_by s.length
decreasing_by
  have blank : isBlank c = false := by
    have := List.head_dropWhile_not isBlank (l := s) (by simp [_front])
    simpa [_front] using this
  have := length_nextToken_lt (s := rest) blank
  have := length_dropWhile_le (p := isBlank) s
  rw [_front] at this
  omega

def scanText (query : String) : List Token := scan query.toList

end Outlay.Query
