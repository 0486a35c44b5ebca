import Outlay.Proofs.Binary64.Range
import Outlay.Proofs.Json.Float
import Outlay.Proofs.Toml.Quoted

/-!
# Scalars are read back

A string, a whole number of 64 bits or a float is written so that it is read as what it was from the
front of the rest of its line.
-/

namespace Outlay.Toml

open Decimal Binary64
open Json (layoutDecimal toFloat_layoutDecimal place_of_shortest)
open Query (MaximalRun)

/-! Digits. -/

theorem ungrouped?_digits {s : List Char} (digits : ∀ c ∈ s, c.isDigit = true) (nonempty : s ≠ []) :
    ungrouped? Char.isDigit s = some s := by
  induction s with
  | nil => exact absurd rfl nonempty
  | cons c t ih =>
    rw [List.forall_mem_cons] at digits
    cases t with
    | nil => exact if_pos digits.1
    | cons d rest =>
      have single : d ≠ '_' := by
        rintro rfl
        exact absurd (digits.2 '_' List.mem_cons_self) (by decide)
      rw [ungrouped?, if_pos digits.1, ih digits.2 (List.cons_ne_nil _ _)]
      · rfl
      · rintro ⟨⟩
      · exact fun _ same => single (List.cons.inj same).1

theorem mem_of_ungrouped? {isDigit : Char → Bool} {s digits : List Char}
    (h : ungrouped? isDigit s = some digits) : ∀ c ∈ s, isDigit c = true ∨ c = '_' := by
  fun_induction ungrouped? isDigit s generalizing digits with
  | case1 => cases h
  | case2 c digit => exact List.forall_mem_singleton.2 (.inl digit)
  | case3 => cases h
  | case4 c rest digit ih =>
    obtain ⟨others, read, -⟩ := Option.map_eq_some_iff.1 h
    exact List.forall_mem_cons.2 ⟨.inl digit, List.forall_mem_cons.2 ⟨.inr rfl, ih read⟩⟩
  | case5 => cases h
  | case6 c rest _ _ digit ih =>
    obtain ⟨others, read, -⟩ := Option.map_eq_some_iff.1 h
    exact List.forall_mem_cons.2 ⟨.inl digit, ih read⟩
  | case7 => cases h

/-- A text that is read as a word, and as the scalar. -/
structure Scalar.IsWord (v : Scalar) (text : List Char) : Prop where
  nonempty : text ≠ []
  chars : ∀ c ∈ text, Scalar.isWordChar c = true
  read : Scalar.ofWord? text = some v

/-! Numbers. -/

/-- The text of a number without its sign: digits and points, a digit first. -/
structure IsNumberBody (body : List Char) : Prop where
  front : ∃ c more, body = c :: more ∧ c.isDigit = true
  chars : ∀ c ∈ body, c.isDigit = true ∨ c = '.'

theorem isNumberBody_digits {digits : List Char} (all : ∀ c ∈ digits, c.isDigit = true)
    (nonempty : digits ≠ []) : IsNumberBody digits := by
  obtain ⟨c, more, rfl⟩ := List.exists_cons_of_ne_nil nonempty
  exact ⟨⟨c, more, rfl, all c List.mem_cons_self⟩, fun c member => .inl (all c member)⟩

section

variable {body : List Char} (number : IsNumberBody body) (negative : Bool)

include number

/-- A sign aside, a number holds none of the characters that other words are told by. -/
theorem IsNumberBody.signed_cases :
    ∃ c more, signed negative body = c :: more ∧ (c = '-' ∨ c.isDigit = true) ∧
      ∀ d ∈ more, d.isDigit = true ∨ d = '.' := by
  obtain ⟨⟨c, more, rfl, digit⟩, chars⟩ := number
  cases negative with
  | true => exact ⟨'-', c :: more, rfl, .inl rfl, chars⟩
  | false => exact ⟨c, more, rfl, .inr digit, (List.forall_mem_cons.1 chars).2⟩

theorem IsNumberBody.sign_signed : sign (signed negative body) = (negative, body) := by
  obtain ⟨⟨c, more, rfl, digit⟩, -⟩ := number
  cases negative with
  | true => rfl
  | false =>
    unfold signed sign
    simp only [Bool.false_eq_true, if_false]
    split
    next same => exact absurd ((List.cons.inj same).1 ▸ digit) (by decide)
    next same => exact absurd ((List.cons.inj same).1 ▸ digit) (by decide)
    next => rfl

theorem IsNumberBody.isMoment_eq_false : isMoment (signed negative body) = false := by
  obtain ⟨c, more, text, -, chars⟩ := number.signed_cases negative
  rw [text]
  have noDate : afterDate? (c :: more) = none := by
    unfold afterDate?
    split
    next same =>
      obtain ⟨-, rfl⟩ := List.cons.inj same
      exact absurd (chars '-' (by simp)) (by decide)
    next => rfl
  have noTime : afterTime? (c :: more) = none := by
    unfold afterTime?
    split
    next same =>
      obtain ⟨-, rfl⟩ := List.cons.inj same
      exact absurd (chars ':' (by simp)) (by decide)
    next => rfl
  unfold isMoment
  rw [noDate, noTime]
  rfl

theorem IsNumberBody.mem_signed {c : Char} (member : c ∈ signed negative body) :
    c = '-' ∨ c.isDigit = true ∨ c = '.' := by
  obtain ⟨d, more, text, first, chars⟩ := number.signed_cases negative
  rw [text] at member
  rcases List.mem_cons.1 member with rfl | member
  · exact first.imp_right .inl
  · exact .inr (chars c member)

theorem IsNumberBody.isWord {v : Scalar} (read : Scalar.ofWord? (signed negative body) = some v) :
    v.IsWord (signed negative body) := by
  refine ⟨?_, ?_, read⟩
  · obtain ⟨c, more, text, -⟩ := number.signed_cases negative
    rw [text]
    exact List.cons_ne_nil c more
  · intro c member
    rcases number.mem_signed negative member with rfl | digit | rfl
    · rfl
    · simp [Scalar.isWordChar, Char.isAlphanum, digit]
    · rfl

/-- A number is tried as an integer, then as a float. -/
theorem IsNumberBody.ofWord?_signed :
    Scalar.ofWord? (signed negative body) =
      ((integer? (signed negative body)).map Scalar.integer).or
        ((float? (signed negative body)).map Scalar.float) := by
  have moment := number.isMoment_eq_false negative
  obtain ⟨c, more, text, first, -⟩ := number.signed_cases negative
  have name {d : Char} (letter : d.isDigit = false) (minus : d ≠ '-') (rest : List Char) :
      c :: more ≠ d :: rest := by
    rintro same
    obtain ⟨rfl, -⟩ := List.cons.inj same
    rcases first with rfl | digit
    · exact minus rfl
    · rw [digit] at letter
      cases letter
  have notTrue : c :: more ≠ "true".toList := name (d := 't') (by decide) (by decide) ['r', 'u', 'e']
  have notFalse : c :: more ≠ "false".toList :=
    name (d := 'f') (by decide) (by decide) ['a', 'l', 's', 'e']
  rw [Scalar.ofWord?, moment, text, if_neg notTrue, if_neg notFalse]
  rfl

theorem IsNumberBody.integer?_signed :
    integer? (signed negative body) = (wholePart? (signed negative body)).bind fun found =>
      inRange? (if found.1 then -(Nat.ofDigitChars 10 found.2 0 : Int)
        else Nat.ofDigitChars 10 found.2 0) := by
  obtain ⟨c, more, text, -, chars⟩ := number.signed_cases negative
  rw [text]
  have letter {d : Char} (noDigit : d.isDigit = false) (noPoint : d ≠ '.') (rest : List Char) :
      more ≠ d :: rest := by
    rintro rfl
    rcases chars d List.mem_cons_self with digit | point
    · rw [digit] at noDigit
      cases noDigit
    · exact noPoint point
  rw [integer?]
  · rfl
  · exact fun rest same => letter (d := 'x') (by decide) (by decide) rest (List.cons.inj same).2
  · exact fun rest same => letter (d := 'o') (by decide) (by decide) rest (List.cons.inj same).2
  · exact fun rest same => letter (d := 'b') (by decide) (by decide) rest (List.cons.inj same).2

theorem IsNumberBody.named?_signed : named? (signed negative body) = none := by
  obtain ⟨c, more, rfl, digit⟩ := number.front
  have name {d : Char} (letter : d.isDigit = false) (rest : List Char) : c :: more ≠ d :: rest := by
    rintro same
    obtain ⟨rfl, -⟩ := List.cons.inj same
    rw [digit] at letter
    cases letter
  have notInf : c :: more ≠ "inf".toList := name (d := 'i') (by decide) ['n', 'f']
  have notNan : c :: more ≠ "nan".toList := name (d := 'n') (by decide) ['a', 'n']
  rw [named?, number.sign_signed]
  simp only [if_neg notInf, if_neg notNan]

end

theorem wholePart?_signed {digits : List Char} (all : ∀ c ∈ digits, c.isDigit = true)
    (nonempty : digits ≠ []) (leading : ∀ more, digits = '0' :: more → more = []) (negative : Bool) :
    wholePart? (signed negative digits) = some (negative, digits) := by
  rw [wholePart?, (isNumberBody_digits all nonempty).sign_signed]
  simp only [ungrouped?_digits all nonempty, Option.bind_eq_bind, Option.bind_some]
  split
  next => cases leading _ rfl
  next => rfl

theorem wholePart?_eq_none {body : List Char} (number : IsNumberBody body) (point : '.' ∈ body)
    (negative : Bool) : wholePart? (signed negative body) = none := by
  have none : ungrouped? Char.isDigit body = none := by
    rw [Option.eq_none_iff_forall_ne_some]
    intro digits read
    rcases mem_of_ungrouped? read '.' point with digit | single
    · exact absurd digit (by decide)
    · exact absurd single (by decide)
  rw [wholePart?, number.sign_signed]
  simp only [none]
  rfl

theorem leading_toDigits (n : Nat) : ∀ more, Nat.toDigits 10 n = '0' :: more → more = [] := by
  intro more front
  rcases Nat.eq_zero_or_pos n with rfl | positive
  · exact (List.cons.inj front).2.symm
  · obtain ⟨c, others, digits, nonzero⟩ := exists_toDigits_eq_cons positive
    rw [digits] at front
    exact absurd (List.cons.inj front).1 nonzero

theorem integer?_intText {n : Int} (bounds : isInt64 n = true) : integer? (intText n) = some n := by
  have number := isNumberBody_digits (isDigit_of_mem_toDigits (n := n.natAbs)) Nat.toDigits_ne_nil
  have size : (if n < 0 then -(n.natAbs : Int) else n.natAbs) = n := by
    split <;> omega
  rw [intText, number.integer?_signed,
    wholePart?_signed isDigit_of_mem_toDigits Nat.toDigits_ne_nil (leading_toDigits _)]
  simp only [Option.bind_some, Nat.ofDigitChars_ten_toDigits, decide_eq_true_eq, size]
  exact if_pos bounds

theorem isWord_intText {n : Int} (bounds : isInt64 n = true) : (Scalar.integer n).IsWord (intText n) := by
  have number := isNumberBody_digits (isDigit_of_mem_toDigits (n := n.natAbs)) Nat.toDigits_ne_nil
  have read : integer? (signed (n < 0) (Nat.toDigits 10 n.natAbs)) = some n := integer?_intText bounds
  refine number.isWord _ ?_
  rw [number.ofWord?_signed, read]
  rfl

/-! Floats. -/

section

variable {text whole fraction : List Char} {digits : ℕ} {exponent : ℤ}
  (pointed : IsPointed text whole fraction digits exponent) (negative : Bool)

include pointed

theorem isNumberBody_of_isPointed : IsNumberBody text := by
  obtain ⟨c, more, first⟩ := List.exists_cons_of_ne_nil pointed.wholeNonempty
  constructor
  · refine ⟨c, more ++ '.' :: fraction, by rw [pointed.text_eq, first]; rfl, ?_⟩
    exact pointed.wholeDigits c (first ▸ List.mem_cons_self)
  · intro d member
    rw [pointed.text_eq] at member
    rcases List.mem_append.1 member with digit | behind
    · exact .inl (pointed.wholeDigits d digit)
    · rcases List.mem_cons.1 behind with rfl | digit
      · exact .inr rfl
      · exact .inl (pointed.fractionDigits d digit)

theorem decimal?_signed : decimal? (signed negative text) = some ⟨negative, digits, exponent⟩ := by
  have number := isNumberBody_of_isPointed pointed
  have noPower : ∀ c ∈ signed negative text, (!isPowerMark c) = true := by
    intro c member
    rcases number.mem_signed negative member with rfl | digit | rfl
    · rfl
    · rw [Bool.not_eq_true', isPowerMark, Bool.or_eq_false_iff, beq_eq_false_iff_ne, beq_eq_false_iff_ne]
      constructor <;> rintro rfl <;> exact absurd digit (by decide)
    · rfl
  have split : signed negative text = signed negative whole ++ '.' :: fraction := by
    rw [pointed.text_eq]
    cases negative <;> rfl
  have run : MaximalRun (· != '.') (signed negative whole) ('.' :: fraction) := by
    have noPoint : '.' ∉ whole := fun point => absurd (pointed.wholeDigits '.' point) (by decide)
    constructor
    · intro c member
      rw [bne_iff_ne]
      rintro rfl
      cases negative with
      | true => exact noPoint ((List.mem_cons.1 member).resolve_left (by decide))
      | false => exact noPoint member
    · rintro c ⟨⟩
      rfl
  rw [decimal?, List.takeWhile_eq_self_iff.2 noPower, List.dropWhile_eq_nil_iff.2 noPower, split,
    run.takeWhile_eq, run.dropWhile_eq,
    wholePart?_signed pointed.wholeDigits pointed.wholeNonempty pointed.leading]
  simp only [ungrouped?_digits pointed.fractionDigits pointed.fractionNonempty, Option.bind_eq_bind,
    Option.bind_some, pointed.ofPlaces_eq]
  rfl

/-- A point keeps a number from being an integer. -/
theorem isWord_signed_of_isPointed {x : Float}
    (float : Decimal.toFloat ⟨negative, digits, exponent⟩ = x) (finite : x.isFinite = true) :
    (Scalar.float x).IsWord (signed negative text) := by
  have number := isNumberBody_of_isPointed pointed
  have point : '.' ∈ text := by
    rw [pointed.text_eq]
    exact List.mem_append_right _ List.mem_cons_self
  have bounded : decide (x < 1.0 / 0.0) = true := decide_eq_true (lt_infinity_of_isFinite finite)
  refine number.isWord negative ?_
  rw [number.ofWord?_signed, number.integer?_signed, wholePart?_eq_none number point, float?,
    number.named?_signed, decimal?_signed pointed]
  simp only [Option.bind_none, Option.map_none, Option.none_or, Option.map_some, float,
    Option.filter_some, bounded, if_true]

end

theorem isWord_floatText (x : Float) : (Scalar.float x).IsWord (Scalar.floatText x) := by
  unfold Scalar.floatText
  cases parts : parts x with
  | nan =>
    rw [eq_nan_of_parts parts]
    exact ⟨by decide, List.all_eq_true.1 rfl, by decide +kernel⟩
  | infinite negative =>
    rw [← eq_infinity_of_parts parts]
    cases negative <;> exact ⟨by decide, List.all_eq_true.1 rfl, by decide +kernel⟩
  | finite negative m e =>
    have float := toFloat_layoutDecimal Scalar.floatLayout parts
    have valid := place_of_shortest m e Scalar.floatLayout.tiesUp
    simp only [Layout.finite]
    unfold layoutDecimal at float
    generalize shortest Scalar.floatLayout.tiesUp m e = found at valid float ⊢
    obtain ⟨n, place⟩ := found
    have valid : n = 0 → place = 0 := valid
    obtain ⟨whole, fraction, pointed⟩ := exists_isPointed valid
    refine isWord_signed_of_isPointed pointed negative ?_ (isFinite_eq_true_of_parts parts)
    rw [← float]
    simp only [Scalar.floatLayout, true_and]
    split <;> rfl

/-! Scalars in their lines. -/

/-- The value is read from the front of the rest of its line, where no blank and no bracket stands. -/
structure Scalar.ReadsBack (v : Scalar) : Prop where
  front : ∃ c more, v.text = c :: more ∧ isSpace c = false ∧ c ≠ '[' ∧ c ≠ '{'
  read (rest : List Char) : Scalar.read (v.text ++ '\n' :: rest) = some (v, '\n' :: rest)

theorem endsQuotes_line (rest : List Char) : EndsQuotes ('\n' :: rest) := by
  rintro c ⟨⟩
  decide

theorem exists_quotedText_eq_cons (s : List Char) :
    ∃ c more, quotedText s = c :: more ∧ (c = '"' ∨ c = '\'') := by
  unfold quotedText
  cases QuoteStyle.of s with
  | basic | longBasic => exact ⟨_, _, rfl, .inl rfl⟩
  | literal | longLiteral => exact ⟨_, _, rfl, .inr rfl⟩

theorem readsBack_string (s : String) : (Scalar.string s).ReadsBack := by
  obtain ⟨c, more, text, quote⟩ := exists_quotedText_eq_cons s.toList
  constructor
  · refine ⟨c, more, text, ?_⟩
    rcases quote with rfl | rfl <;> decide
  · intro rest
    have read := readQuoted_quotedText (s := s.toList) (endsQuotes_line rest)
    change Scalar.read (quotedText s.toList ++ '\n' :: rest) = _
    rw [text, List.cons_append] at read ⊢
    rcases quote with rfl | rfl <;> rw [Scalar.read, read] <;>
      simp only [Option.map_some, String.ofList_toList]

/-- A word is read as what its characters say. -/
theorem Scalar.IsWord.readsBack {v : Scalar} (word : v.IsWord v.text) : v.ReadsBack := by
  obtain ⟨c, more, text⟩ := List.exists_cons_of_ne_nil word.nonempty
  have differs {d : Char} (other : Scalar.isWordChar d = false) : c ≠ d := by
    rintro rfl
    rw [word.chars c (text ▸ List.mem_cons_self)] at other
    cases other
  constructor
  · refine ⟨c, more, text, ?_, differs (by decide), differs (by decide)⟩
    rw [isSpace, Bool.or_eq_false_iff, beq_eq_false_iff_ne, beq_eq_false_iff_ne]
    exact ⟨differs (by decide), differs (by decide)⟩
  · intro rest
    have run : MaximalRun Scalar.isWordChar v.text ('\n' :: rest) := by
      refine ⟨word.chars, ?_⟩
      rintro d ⟨⟩
      rfl
    have isWord : Scalar.read (v.text ++ '\n' :: rest) = Scalar.readWord (v.text ++ '\n' :: rest) := by
      rw [text, List.cons_append, Scalar.read]
      · exact fun _ same => differs (d := '"') (by decide) (List.cons.inj same).1
      · exact fun _ same => differs (d := '\'') (by decide) (List.cons.inj same).1
    rw [isWord, Scalar.readWord]
    simp only [run.takeWhile_eq, run.dropWhile_eq, word.read]
    rfl

theorem readsBack_integer {n : Int} (bounds : isInt64 n = true) : (Scalar.integer n).ReadsBack :=
  Scalar.IsWord.readsBack (isWord_intText bounds)

theorem readsBack_float (x : Float) : (Scalar.float x).ReadsBack :=
  Scalar.IsWord.readsBack (isWord_floatText x)

end Outlay.Toml
