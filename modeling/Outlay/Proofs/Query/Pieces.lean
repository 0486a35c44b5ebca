import Outlay.Proofs.Query.Lexeme

/-!
# Cutting a query into pieces

A query is cut into lexemes of the grammar with blanks between them. There is exactly one such cut
of each text, the scanner's tokens are those of its pieces, and no character is lost but blanks.
-/

namespace Outlay.Query

open Text

/-- Induction along a scan: a text is all blank, or there is a token behind blanks, and the scan
goes on behind that token. -/
@[elab_as_elim]
theorem scan_induction {motive : List Char → Prop}
    (blank : ∀ gap, (∀ c ∈ gap, isBlank c = true) → motive gap)
    (token : ∀ gap s, (∀ c ∈ gap, isBlank c = true) → StartsVisible s → motive (nextToken s).2 →
      motive (gap ++ s)) (s : List Char) : motive s := by
  fun_induction scan s with
  | case1 s front => exact blank s (List.dropWhile_eq_nil_iff.1 front)
  | case2 s c more front ih =>
    obtain ⟨gap, behind, rfl, maximal⟩ := MaximalRun.exists_eq_append isBlank s
    rw [maximal.dropWhile_eq] at front
    subst front
    exact token gap _ maximal.holds ⟨c, more, rfl, maximal.stops c rfl⟩ ih

theorem scan_of_blank {gap : List Char} (h : ∀ c ∈ gap, isBlank c = true) : scan gap = [] := by
  have front := List.dropWhile_eq_nil_iff.2 h
  rw [scan]
  split
  next => rfl
  next c more other => simp [front] at other

theorem scan_blank_append {gap : List Char} (h : ∀ c ∈ gap, isBlank c = true) (s : List Char) :
    scan (gap ++ s) = scan s := by
  rw [scan, scan, List.dropWhile_append_of_pos h]

theorem scan_of_startsVisible {s : List Char} (visible : StartsVisible s) :
    scan s = (nextToken s).1 :: scan (nextToken s).2 := by
  obtain ⟨c, more, rfl, h⟩ := visible
  rw [scan]
  split
  next front => simp [h] at front
  next d rest front =>
    simp only [List.dropWhile_cons, h, Bool.false_eq_true, if_false] at front
    rw [front]

/-- A token, the text it is read from, and the blanks in front of that. -/
structure Piece where
  gap : List Char
  lexeme : List Char
  token : Token

namespace Piece

/-- The text that pieces make up together with the blanks behind the last. -/
def textOf (tail : List Char) : List Piece → List Char
  | [] => tail
  | p :: pieces => p.gap ++ (p.lexeme ++ textOf tail pieces)

/-- The piece is one that the grammar admits in front of `rest`. -/
structure Fits (p : Piece) (rest : List Char) : Prop where
  gap_blank : ∀ c ∈ p.gap, isBlank c = true
  starts : StartsVisible p.lexeme
  spells : SpellsToken p.lexeme rest p.token

/-- Each piece fits in front of the text of those behind it, and the end is blank. -/
def Cut (tail : List Char) : List Piece → Prop
  | [] => ∀ c ∈ tail, isBlank c = true
  | p :: pieces => p.Fits (textOf tail pieces) ∧ Cut tail pieces

theorem Fits.startsVisible {p : Piece} {rest : List Char} (fits : p.Fits rest) :
    StartsVisible (p.lexeme ++ rest) := fits.starts.append rest

/-- Behind the gap of a piece the scanner reads just its lexeme. -/
theorem Fits.nextToken_eq {p : Piece} {rest : List Char} (fits : p.Fits rest) :
    nextToken (p.lexeme ++ rest) = (p.token, rest) :=
  (nextToken_eq_iff fits.startsVisible).2 ⟨p.lexeme, rfl, fits.spells⟩

theorem Fits.gap_maximal {p : Piece} {rest : List Char} (fits : p.Fits rest) :
    MaximalRun isBlank p.gap (p.lexeme ++ rest) := by
  obtain ⟨c, more, same, visible⟩ := fits.startsVisible
  exact ⟨fits.gap_blank, by simpa [same] using visible⟩

theorem scan_textOf {tail : List Char} {pieces : List Piece} (cut : Cut tail pieces) :
    scan (textOf tail pieces) = pieces.map Piece.token := by
  induction pieces with
  | nil => exact scan_of_blank cut
  | cons p pieces ih =>
    obtain ⟨fits, cut⟩ := cut
    rw [textOf, scan_blank_append fits.gap_blank, scan_of_startsVisible fits.startsVisible,
      fits.nextToken_eq, ih cut, List.map_cons]

theorem exists_cut (s : List Char) : ∃ pieces tail, textOf tail pieces = s ∧ Cut tail pieces := by
  induction s using scan_induction with
  | blank gap h => exact ⟨[], gap, rfl, h⟩
  | token gap s h visible ih =>
    obtain ⟨pieces, tail, same, cut⟩ := ih
    cases step : nextToken s with
    | mk token rest =>
      rw [step] at same
      subst same
      obtain ⟨lexeme, rfl, spells⟩ := (nextToken_eq_iff visible).1 step
      exact ⟨⟨gap, lexeme, token⟩ :: pieces, tail, rfl, ⟨h, spells.startsVisible, spells⟩, cut⟩

theorem eq_nil_of_blank {tail : List Char} {pieces : List Piece} (cut : Cut tail pieces)
    (blank : ∀ c ∈ textOf tail pieces, isBlank c = true) : pieces = [] := by
  cases pieces with
  | nil => rfl
  | cons p pieces =>
    obtain ⟨c, more, front, visible⟩ := cut.1.starts
    have inside : c ∈ textOf tail (p :: pieces) := by simp [textOf, front]
    rw [blank c inside] at visible
    cases visible

/-- The grammar leaves no choice. -/
theorem cut_unique {tail tail' : List Char} {pieces pieces' : List Piece}
    (same : textOf tail' pieces' = textOf tail pieces) (cut : Cut tail pieces)
    (cut' : Cut tail' pieces') : pieces' = pieces ∧ tail' = tail := by
  induction pieces generalizing pieces' with
  | nil =>
    obtain rfl := eq_nil_of_blank cut' (by rw [same]; exact cut)
    exact ⟨rfl, same⟩
  | cons p pieces ih =>
    cases pieces' with
    | nil =>
      have empty := eq_nil_of_blank cut (by rw [← same]; exact cut')
      cases empty
    | cons p' pieces' =>
      obtain ⟨fits, cut⟩ := cut
      obtain ⟨fits', cut'⟩ := cut'
      simp only [textOf] at same
      -- Gaps are maximal, so they agree, and then the scanner takes the same step behind both.
      have gaps : p'.gap = p.gap := by
        rw [← fits'.gap_maximal.takeWhile_eq, same, fits.gap_maximal.takeWhile_eq]
      rw [gaps, List.append_cancel_left_eq] at same
      have step := fits'.nextToken_eq
      rw [same, fits.nextToken_eq, Prod.mk.injEq] at step
      obtain ⟨tokens, rests⟩ := step
      rw [← rests, List.append_cancel_right_eq] at same
      obtain ⟨rfl, rfl⟩ := ih rests.symm cut cut'
      cases p
      cases p'
      simp_all

/-- The gaps of a cut and its end hold nothing but blanks. -/
theorem filter_textOf {tail : List Char} {pieces : List Piece} (cut : Cut tail pieces) :
    (textOf tail pieces).filter (!isBlank ·) =
      (pieces.flatMap Piece.lexeme).filter (!isBlank ·) := by
  have dropped {gap : List Char} (h : ∀ c ∈ gap, isBlank c = true) :
      gap.filter (!isBlank ·) = [] := by
    rw [List.filter_eq_nil_iff]
    intro c member
    simp [h c member]
  induction pieces with
  | nil => exact dropped cut
  | cons p pieces ih =>
    simp only [textOf, List.flatMap_cons, List.filter_append, dropped cut.1.gap_blank, ih cut.2,
      List.nil_append]

/-- Each query has exactly one cut, it holds all characters of the query that are no blanks, and
the scanner's tokens are those of its pieces. -/
theorem exists_unique_cut_scanText (query : String) :
    ∃ pieces tail, textOf tail pieces = query.toList ∧ Cut tail pieces ∧
      scanText query = pieces.map Piece.token ∧
      query.toList.filter (!isBlank ·) = (pieces.flatMap Piece.lexeme).filter (!isBlank ·) ∧
      ∀ pieces' tail', textOf tail' pieces' = query.toList → Cut tail' pieces' →
        pieces' = pieces ∧ tail' = tail := by
  obtain ⟨pieces, tail, same, cut⟩ := exists_cut query.toList
  refine ⟨pieces, tail, same, cut, ?_, ?_, ?_⟩
  · rw [scanText, ← same, scan_textOf cut]
  · rw [← same, filter_textOf cut]
  · intro pieces' tail' same' cut'
    exact cut_unique (same'.trans same.symm) cut cut'

end Piece

end Outlay.Query
