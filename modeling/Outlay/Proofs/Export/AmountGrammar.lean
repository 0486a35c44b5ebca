import Outlay.Proofs.Export.WellFormed

/-!
# The grammar of amounts

What texts are amounts, said without the reader, and which floats they stand for. Main result:
`readAmount?_grammar`.
-/

namespace Outlay.Export

open Binary64
open Query (MaximalRun)
open Text (isBlank trim)

/-! The grammar. -/

/-- Digits and commas. -/
def IsGrouped (run : List Char) : Prop := ∀ c ∈ run, c.isDigit = true ∨ c = ','

/-- The digits behind a point. -/
def IsFraction (fraction : List Char) : Prop := fraction ≠ [] ∧ ∀ c ∈ fraction, c.isDigit = true

/-- The text of a number with its digits before and behind the point. Commas are left out of them. -/
inductive IsNumber : List Char → List Char → List Char → Prop
  | whole {first run} : first.isDigit = true → IsGrouped run →
      IsNumber (first :: run) ((first :: run).filter (· ≠ ',')) []
  | places {first run fraction} : first.isDigit = true → IsGrouped run → IsFraction fraction →
      IsNumber (first :: (run ++ '.' :: fraction)) ((first :: run).filter (· ≠ ',')) fraction
  | fraction {fraction} : IsFraction fraction → IsNumber ('.' :: fraction) [] fraction

/-- The text of an amount: a minus and a dollar sign may stand in front of a number, with blanks
behind each of them. -/
inductive IsAmount : List Char → Bool → List Char → List Char → Prop
  | mk {before between number whole fraction} (minus dollar : Bool) :
      (∀ c ∈ before, isBlank c = true) → (∀ c ∈ between, isBlank c = true) →
      IsNumber number whole fraction →
      IsAmount ((if minus then ['-'] else []) ++ (before ++
        ((if dollar then ['$'] else []) ++ (between ++ number)))) minus whole fraction

/-! Numbers. -/

def isGroupChar (c : Char) : Bool := c.isDigit || c == ','

theorem isGroupChar_iff {c : Char} : isGroupChar c = true ↔ c.isDigit = true ∨ c = ',' := by
  simp [isGroupChar]

theorem isFraction_iff {fraction : List Char} :
    (!fraction.isEmpty && fraction.all Char.isDigit) = true ↔ IsFraction fraction := by
  simp [IsFraction]

theorem amountPlaces?_point (fraction : List Char) :
    amountPlaces? ('.' :: fraction) =
      if !fraction.isEmpty && fraction.all Char.isDigit then some ([], fraction) else none := rfl

/-- A number starts with a digit or a point. -/
theorem amountPlaces?_eq_none {first : Char} (noPoint : first ≠ '.') (noDigit : first.isDigit = false)
    (rest : List Char) : amountPlaces? (first :: rest) = none := by
  rw [amountPlaces?]
  · rw [noDigit]
    rfl
  · exact noPoint

theorem cons_filter_isDigit {first : Char} {run : List Char} (digit : first.isDigit = true)
    (grouped : IsGrouped run) :
    first :: run.filter Char.isDigit = (first :: run).filter (· ≠ ',') := by
  rw [← List.filter_cons_of_pos digit]
  apply List.filter_congr
  intro c member
  have known : c.isDigit = true ∨ c = ',' := by
    rcases List.mem_cons.1 member with rfl | member
    · exact .inl digit
    · exact grouped c member
  rcases known with digit | rfl
  · have : c ≠ ',' := by
      rintro rfl
      exact absurd digit (by decide)
    rw [digit, decide_eq_true this]
  · decide

/-- The digits of a number with those behind its point. -/
def withFraction? (whole : List Char) : List Char → Option (List Char × List Char)
  | [] => some (whole, [])
  | '.' :: fraction =>
    if !fraction.isEmpty && fraction.all Char.isDigit then some (whole, fraction) else none
  | _ => none

section

variable {first : Char} (digit : first.isDigit = true)

include digit

theorem amountPlaces?_maximal {run back : List Char} (maximal : MaximalRun isGroupChar run back) :
    amountPlaces? (first :: (run ++ back)) = withFraction? ((first :: run).filter (· ≠ ',')) back := by
  have grouped : IsGrouped run := fun c member => isGroupChar_iff.1 (maximal.holds c member)
  have taken : (run ++ back).takeWhile (fun c => c.isDigit || c == ',') = run := maximal.takeWhile_eq
  have dropped : (run ++ back).dropWhile (fun c => c.isDigit || c == ',') = back :=
    maximal.dropWhile_eq
  rw [amountPlaces?_cons digit, taken, dropped, cons_filter_isDigit digit grouped]
  rfl

/-- A comma among digits and commas is left out, whatever stands behind them. -/
theorem amountPlaces?_comma {run : List Char} (grouped : IsGrouped run) (back : List Char) :
    amountPlaces? (first :: (run ++ ',' :: back)) = amountPlaces? (first :: (run ++ back)) := by
  obtain ⟨more, rest, rfl, maximal⟩ := MaximalRun.exists_eq_append isGroupChar back
  have holds : ∀ c ∈ run, isGroupChar c = true := fun c member => isGroupChar_iff.2 (grouped c member)
  have shorter : MaximalRun isGroupChar (run ++ more) rest := by
    refine ⟨fun c member => ?_, maximal.stops⟩
    rcases List.mem_append.1 member with member | member
    · exact holds c member
    · exact maximal.holds c member
  have longer : MaximalRun isGroupChar (run ++ ',' :: more) rest := by
    refine ⟨fun c member => ?_, maximal.stops⟩
    rcases List.mem_append.1 member with member | member
    · exact holds c member
    · rcases List.mem_cons.1 member with rfl | member
      · rfl
      · exact maximal.holds c member
  have long := amountPlaces?_maximal digit longer
  have short := amountPlaces?_maximal digit shorter
  rw [List.append_assoc] at long short
  rw [List.cons_append] at long
  have skipped : (',' :: more).filter (· ≠ ',') = more.filter (· ≠ ',') :=
    List.filter_cons_of_neg (by decide)
  rw [long, short, ← List.cons_append, ← List.cons_append, List.filter_append, List.filter_append,
    skipped]

end

theorem isNumber_of_amountPlaces? {s whole fraction : List Char}
    (read : amountPlaces? s = some (whole, fraction)) : IsNumber s whole fraction := by
  cases s with
  | nil => cases read
  | cons first rest =>
    by_cases point : first = '.'
    · subst point
      rw [amountPlaces?_point] at read
      split at read
      next digits =>
        cases read
        exact .fraction (isFraction_iff.1 digits)
      next => cases read
    cases digit : first.isDigit with
    | false =>
      rw [amountPlaces?_eq_none point digit] at read
      cases read
    | true =>
      obtain ⟨run, back, rfl, maximal⟩ := MaximalRun.exists_eq_append isGroupChar rest
      have grouped : IsGrouped run := fun c member => isGroupChar_iff.1 (maximal.holds c member)
      rw [amountPlaces?_maximal digit maximal] at read
      unfold withFraction? at read
      split at read
      next =>
        cases read
        rw [List.append_nil]
        exact .whole digit grouped
      next =>
        split at read
        next digits =>
          cases read
          exact .places digit grouped (isFraction_iff.1 digits)
        next => cases read
      next => cases read

theorem IsNumber.amountPlaces?_eq {s whole fraction : List Char} (number : IsNumber s whole fraction) :
    amountPlaces? s = some (whole, fraction) := by
  cases number with
  | @whole first run digit grouped =>
    have maximal : MaximalRun isGroupChar run [] :=
      ⟨fun c member => isGroupChar_iff.2 (grouped c member), by rintro c ⟨⟩⟩
    have read := amountPlaces?_maximal digit maximal
    rwa [List.append_nil] at read
  | @places first run _ digit grouped digits =>
    have maximal : MaximalRun isGroupChar run ('.' :: fraction) :=
      ⟨fun c member => isGroupChar_iff.2 (grouped c member), by rintro c ⟨⟩; rfl⟩
    rw [amountPlaces?_maximal digit maximal]
    exact if_pos (isFraction_iff.2 digits)
  | fraction digits => exact if_pos (isFraction_iff.2 digits)

/-- Behind a digit of the whole part a comma makes no difference to what is no number either. -/
theorem amountPlaces?_append_comma {front run : List Char} {digit : Char} (noPoint : '.' ∉ front)
    (isDigit : digit.isDigit = true) (grouped : IsGrouped run) (back : List Char) :
    amountPlaces? (front ++ digit :: (run ++ ',' :: back)) =
      amountPlaces? (front ++ digit :: (run ++ back)) := by
  cases front with
  | nil => exact amountPlaces?_comma isDigit grouped back
  | cons first front =>
    have point : first ≠ '.' := fun same => noPoint (same ▸ List.mem_cons_self)
    cases firstDigit : first.isDigit with
    | false =>
      rw [List.cons_append, List.cons_append, amountPlaces?_eq_none point firstDigit,
        amountPlaces?_eq_none point firstDigit]
    | true =>
      obtain ⟨more, rest, rfl, maximal⟩ := MaximalRun.exists_eq_append isGroupChar front
      cases rest with
      | nil =>
        have all : IsGrouped (more ++ digit :: run) := by
          intro c member
          rcases List.mem_append.1 member with member | member
          · exact isGroupChar_iff.1 (maximal.holds c member)
          · rcases List.mem_cons.1 member with rfl | member
            · exact .inl isDigit
            · exact grouped c member
        have same := amountPlaces?_comma firstDigit all back
        simpa using same
      | cons other rest =>
        have noPoint' : other ≠ '.' := fun same => noPoint (by simp [same])
        have none (x : List Char) : amountPlaces? (first :: (more ++ other :: x)) = none := by
          have stopped : MaximalRun isGroupChar more (other :: x) := ⟨maximal.holds, maximal.stops⟩
          rw [amountPlaces?_maximal firstDigit stopped]
          simp [withFraction?, noPoint']
        simp only [List.cons_append, List.append_assoc, none]

/-! What stands in front of a number. -/

theorem IsNumber.exists_cons {s whole fraction : List Char} (number : IsNumber s whole fraction) :
    ∃ c rest, s = c :: rest ∧ (c.isDigit = true ∨ c = '.') := by
  cases number with
  | whole digit | places digit => exact ⟨_, _, rfl, .inl digit⟩
  | fraction => exact ⟨_, _, rfl, .inr rfl⟩

def hasMinus (s : List Char) : Bool := s.head? == some '-'

def behindMinus : List Char → List Char
  | '-' :: rest => rest
  | s => s

/-- The text behind the minus, the dollar sign and the blanks. -/
def amountNumber (s : List Char) : List Char :=
  (dropDollar ((behindMinus s).dropWhile isBlank)).dropWhile isBlank

theorem behindMinus_cons {c : Char} (noMinus : c ≠ '-') (rest : List Char) :
    behindMinus (c :: rest) = c :: rest := by
  unfold behindMinus
  split
  next same => exact absurd (List.cons.inj same).1 noMinus
  next => rfl

theorem dropDollar_cons {c : Char} (noDollar : c ≠ '$') (rest : List Char) :
    dropDollar (c :: rest) = c :: rest := by
  unfold dropDollar
  split
  next same => exact absurd (List.cons.inj same).1 noDollar
  next => rfl

theorem spelledAmount?_eq (raw : String) :
    spelledAmount? raw = (amountPlaces? (amountNumber (trim raw.toList))).map fun (whole, fraction) =>
      .ofPlaces (hasMinus (trim raw.toList)) whole fraction 0 := by
  unfold spelledAmount? amountNumber
  cases trim raw.toList with
  | nil => rfl
  | cons c rest =>
    by_cases minus : c = '-'
    · subst minus
      rfl
    · have unsigned : hasMinus (c :: rest) = false := by simpa [hasMinus] using minus
      rw [behindMinus_cons minus, unsigned]
      dsimp only
      split
      next same => exact absurd (List.cons.inj same).1 minus
      next => rfl

theorem amountNumber_suffix (s : List Char) : amountNumber s <:+ s := by
  have minus : behindMinus s <:+ s := by
    unfold behindMinus
    split
    · exact List.suffix_cons _ _
    · exact List.suffix_rfl
  have dollar (t : List Char) : dropDollar t <:+ t := by
    unfold dropDollar
    split
    · exact List.suffix_cons _ _
    · exact List.suffix_rfl
  exact ((List.dropWhile_suffix _).trans (dollar _)).trans ((List.dropWhile_suffix _).trans minus)

theorem exists_marks (s : List Char) :
    ∃ before between, ∃ dollar : Bool, (∀ c ∈ before, isBlank c = true) ∧
      (∀ c ∈ between, isBlank c = true) ∧
      s = (if hasMinus s then ['-'] else []) ++ (before ++
        ((if dollar then ['$'] else []) ++ (between ++ amountNumber s))) := by
  have minus : s = (if hasMinus s then ['-'] else []) ++ behindMinus s := by
    cases s with
    | nil => rfl
    | cons c rest =>
      by_cases minus : c = '-'
      · subst minus
        rfl
      · have unsigned : hasMinus (c :: rest) = false := by simpa [hasMinus] using minus
        rw [behindMinus_cons minus, unsigned]
        rfl
  have mark (t : List Char) : ∃ dollar : Bool, t = (if dollar then ['$'] else []) ++ dropDollar t := by
    cases t with
    | nil => exact ⟨false, rfl⟩
    | cons c rest =>
      by_cases isDollar : c = '$'
      · subst isDollar
        exact ⟨true, rfl⟩
      · exact ⟨false, by rw [dropDollar_cons isDollar]; rfl⟩
  obtain ⟨dollar, marked⟩ := mark ((behindMinus s).dropWhile isBlank)
  refine ⟨(behindMinus s).takeWhile isBlank,
    (dropDollar ((behindMinus s).dropWhile isBlank)).takeWhile isBlank, dollar,
    fun c member => List.mem_takeWhile_imp member, fun c member => List.mem_takeWhile_imp member, ?_⟩
  rw [amountNumber, List.takeWhile_append_dropWhile, ← marked, List.takeWhile_append_dropWhile, ← minus]

section

variable {c : Char} (noBlank : isBlank c = false) (noMinus : c ≠ '-') (noDollar : c ≠ '$')

include noMinus in
theorem hasMinus_append (front rest : List Char) : hasMinus (front ++ c :: rest) = hasMinus front := by
  cases front with
  | nil => simpa [hasMinus] using noMinus
  | cons => rfl

include noMinus in
theorem behindMinus_append (front rest : List Char) :
    behindMinus (front ++ c :: rest) = behindMinus front ++ c :: rest := by
  cases front with
  | nil => exact behindMinus_cons noMinus rest
  | cons d front =>
    by_cases minus : d = '-'
    · subst minus
      rfl
    · rw [List.cons_append, behindMinus_cons minus, behindMinus_cons minus, List.cons_append]

include noDollar in
theorem dropDollar_append (front rest : List Char) :
    dropDollar (front ++ c :: rest) = dropDollar front ++ c :: rest := by
  cases front with
  | nil => exact dropDollar_cons noDollar rest
  | cons d front =>
    by_cases dollar : d = '$'
    · subst dollar
      rfl
    · rw [List.cons_append, dropDollar_cons dollar, dropDollar_cons dollar, List.cons_append]

include noBlank noMinus noDollar in
/-- The number goes on from the first character that is no mark and no blank. -/
theorem amountNumber_append (front rest : List Char) :
    amountNumber (front ++ c :: rest) = amountNumber front ++ c :: rest := by
  rw [amountNumber, behindMinus_append noMinus, Text.dropWhile_isBlank_append noBlank,
    dropDollar_append noDollar, Text.dropWhile_isBlank_append noBlank, amountNumber]

end

/-- What stands in front of a number is all dropped. -/
theorem amountNumber_marks {before between : List Char} (minus dollar : Bool)
    (blank : ∀ c ∈ before, isBlank c = true) (blank' : ∀ c ∈ between, isBlank c = true) :
    hasMinus ((if minus then ['-'] else []) ++ (before ++ ((if dollar then ['$'] else []) ++ between))) =
        minus ∧
      amountNumber
        ((if minus then ['-'] else []) ++ (before ++ ((if dollar then ['$'] else []) ++ between))) = [] := by
  have dropped : (dropDollar ((before ++ ((if dollar then ['$'] else []) ++ between)).dropWhile
      isBlank)).dropWhile isBlank = [] := by
    have all : between.dropWhile isBlank = [] := List.dropWhile_eq_nil_iff.2 blank'
    rw [List.dropWhile_append_of_pos blank]
    cases dollar with
    | true => exact all
    | false =>
      change (dropDollar (between.dropWhile isBlank)).dropWhile isBlank = []
      rw [all]
      rfl
  cases minus with
  | true => exact ⟨rfl, dropped⟩
  | false =>
    have unsigned : ∀ c ∈ before ++ ((if dollar then ['$'] else []) ++ between), c ≠ '-' := by
      rintro c member rfl
      rcases List.mem_append.1 member with member | member
      · exact absurd (blank _ member) (by decide)
      · rcases List.mem_append.1 member with member | member
        · split at member <;> simp at member
        · exact absurd (blank' _ member) (by decide)
    change hasMinus (before ++ _) = false ∧ amountNumber (before ++ _) = []
    unfold amountNumber
    generalize before ++ ((if dollar then ['$'] else []) ++ between) = s at *
    cases s with
    | nil => exact ⟨rfl, rfl⟩
    | cons c rest =>
      have minus := unsigned c List.mem_cons_self
      rw [behindMinus_cons minus]
      exact ⟨by simpa [hasMinus] using minus, dropped⟩

/-! Amounts. -/

theorem spelledAmount?_eq_some_iff {raw : String} {d : Decimal} :
    spelledAmount? raw = some d ↔ ∃ minus whole fraction,
      IsAmount (trim raw.toList) minus whole fraction ∧ d = .ofPlaces minus whole fraction 0 := by
  rw [spelledAmount?_eq]
  generalize trim raw.toList = s
  rw [Option.map_eq_some_iff]
  constructor
  · rintro ⟨⟨whole, fraction⟩, read, rfl⟩
    obtain ⟨before, between, dollar, blank, blank', text⟩ := exists_marks s
    refine ⟨hasMinus s, whole, fraction, ?_, rfl⟩
    have amount := IsAmount.mk (hasMinus s) dollar blank blank' (isNumber_of_amountPlaces? read)
    rwa [← text] at amount
  · rintro ⟨minus, whole, fraction, amount, rfl⟩
    cases amount with
    | @mk before between number _ _ _ dollar blank blank' isNumber =>
      obtain ⟨c, rest, rfl, starts⟩ := isNumber.exists_cons
      have noBlank : isBlank c = false := by
        rcases starts with digit | rfl
        · exact Text.isBlank_eq_false_of_isDigit digit
        · decide
      have noMark : c ≠ '-' ∧ c ≠ '$' := by
        constructor <;> rintro rfl <;> revert starts <;> decide
      obtain ⟨sign, none⟩ := amountNumber_marks minus dollar blank blank'
      have regroup : (if minus then ['-'] else []) ++ (before ++ ((if dollar then ['$'] else []) ++
          (between ++ c :: rest))) = ((if minus then ['-'] else []) ++ (before ++
            ((if dollar then ['$'] else []) ++ between))) ++ c :: rest := by
        simp only [List.append_assoc]
      rw [regroup, hasMinus_append noMark.1, amountNumber_append noBlank noMark.1 noMark.2, sign, none]
      exact ⟨(whole, fraction), isNumber.amountPlaces?_eq, rfl⟩

/-- What an amount is made of. -/
theorem IsAmount.mem {s whole fraction : List Char} {minus : Bool} (amount : IsAmount s minus whole fraction)
    {c : Char} (member : c ∈ s) :
    isBlank c = true ∨ c.isDigit = true ∨ c ∈ ['-', '$', ',', '.'] := by
  have ofFraction {fraction : List Char} (digits : IsFraction fraction) (member : c ∈ '.' :: fraction) :
      c.isDigit = true ∨ c ∈ ['-', '$', ',', '.'] := by
    rcases List.mem_cons.1 member with rfl | member
    · exact .inr (by decide)
    · exact .inl (digits.2 c member)
  have ofWhole {first : Char} {run : List Char} (digit : first.isDigit = true) (grouped : IsGrouped run)
      (member : c ∈ first :: run) : c.isDigit = true ∨ c ∈ ['-', '$', ',', '.'] := by
    rcases List.mem_cons.1 member with rfl | member
    · exact .inl digit
    · rcases grouped c member with digit | rfl
      · exact .inl digit
      · exact .inr (by decide)
  have ofMark {mark : Bool} {d : Char} (isMark : d ∈ ['-', '$', ',', '.'])
      (member : c ∈ if mark then [d] else []) : c ∈ ['-', '$', ',', '.'] := by
    cases mark with
    | true => rwa [List.mem_singleton.1 member]
    | false => cases member
  cases amount with
  | mk minus dollar blank blank' number =>
    rcases List.mem_append.1 member with member | member
    · exact .inr (.inr (ofMark (by decide) member))
    rcases List.mem_append.1 member with member | member
    · exact .inl (blank c member)
    rcases List.mem_append.1 member with member | member
    · exact .inr (.inr (ofMark (by decide) member))
    rcases List.mem_append.1 member with member | member
    · exact .inl (blank' c member)
    cases number with
    | whole digit grouped => exact .inr (ofWhole digit grouped member)
    | places digit grouped digits =>
      rw [← List.cons_append] at member
      rcases List.mem_append.1 member with member | member
      · exact .inr (ofWhole digit grouped member)
      · exact .inr (ofFraction digits member)
    | fraction digits => exact .inr (ofFraction digits member)

/-- Blanks at the ends and a comma behind a digit of the whole part are left out. -/
theorem spelledAmount?_comma {front run : List Char} {digit : Char} (noPoint : '.' ∉ front)
    (isDigit : digit.isDigit = true) (grouped : IsGrouped run) (back : List Char) :
    spelledAmount? (.ofList (front ++ digit :: (run ++ ',' :: back))) =
      spelledAmount? (.ofList (front ++ digit :: (run ++ back))) := by
  have noBlank := Text.isBlank_eq_false_of_isDigit isDigit
  have noMark : digit ≠ '-' ∧ digit ≠ '$' := by
    constructor <;> rintro rfl <;> exact absurd isDigit (by decide)
  have ends : ∀ c ∈ (digit :: run).getLast?, isBlank c = false := by
    intro c last
    rcases List.mem_cons.1 (List.mem_of_getLast? last) with rfl | member
    · exact noBlank
    · rcases grouped c member with digit | rfl
      · exact Text.isBlank_eq_false_of_isDigit digit
      · decide
  have ends' : ∀ c ∈ (digit :: (run ++ [','])).getLast?, isBlank c = false := by
    rw [← List.cons_append, List.getLast?_concat]
    rintro c ⟨⟩
    rfl
  have noPoint' : '.' ∉ amountNumber (front.dropWhile isBlank) := fun member =>
    noPoint (((amountNumber_suffix _).trans (List.dropWhile_suffix _)).subset member)
  have long := Text.trim_append noBlank ends' front back
  have short := Text.trim_append noBlank ends front back
  rw [List.append_assoc, List.append_assoc, List.singleton_append, List.singleton_append] at long
  rw [spelledAmount?_eq, spelledAmount?_eq, String.toList_ofList, String.toList_ofList]
  rw [long, short, hasMinus_append noMark.1, hasMinus_append noMark.1,
    amountNumber_append noBlank noMark.1 noMark.2, amountNumber_append noBlank noMark.1 noMark.2,
    amountPlaces?_append_comma noPoint' isDigit grouped]

/-- The number that is spelled without a minus. -/
theorem isRounding_ofPlaces (whole fraction : List Char) :
    IsRounding (Nat.ofDigitChars 10 (whole ++ fraction) 0 / 10 ^ fraction.length)
      (Decimal.ofPlaces false whole fraction 0).toFloat := by
  have rounds := Decimal.isRounding_toFloat (d := .ofPlaces false whole fraction 0) rfl
  have size : (Decimal.ofPlaces false whole fraction 0).size =
      Nat.ofDigitChars 10 (whole ++ fraction) 0 / 10 ^ fraction.length := by
    rw [Decimal.size, Decimal.ofPlaces, zero_sub, zpow_neg, zpow_natCast, div_eq_mul_inv]
  rwa [size] at rounds

theorem toFloat_ofPlaces (minus : Bool) (whole fraction : List Char) :
    (Decimal.ofPlaces minus whole fraction 0).toFloat =
      if minus then -(Decimal.ofPlaces false whole fraction 0).toFloat
      else (Decimal.ofPlaces false whole fraction 0).toFloat := by
  cases minus with
  | false => rfl
  | true => exact (Decimal.neg_toFloat _ _).symm

/-- A text is read as an amount if it is one, blanks at its ends aside, and the amount is the float
next to the number that the digits spell, its sign turned by a minus. So no digits but those of
ASCII are read, and commas behind a digit of the whole part make no difference. -/
theorem readAmount?_grammar (raw : String) :
    ((readAmount? raw).isSome = true ↔
      ∃ minus whole fraction, IsAmount (trim raw.toList) minus whole fraction) ∧
    (∀ v, readAmount? raw = some v ↔ ∃ minus whole fraction size,
      IsAmount (trim raw.toList) minus whole fraction ∧
      IsRounding (Nat.ofDigitChars 10 (whole ++ fraction) 0 / 10 ^ fraction.length) size ∧
      v = if minus then -size else size) ∧
    (∀ c ∈ raw.toList, isBlank c = false → c.isDigit = false → c ∉ ['-', '$', ',', '.'] →
      readAmount? raw = none) ∧
    ∀ front digit run back, '.' ∉ front → digit.isDigit = true → IsGrouped run →
      raw = .ofList (front ++ digit :: (run ++ ',' :: back)) →
        readAmount? raw = readAmount? (.ofList (front ++ digit :: (run ++ back))) := by
  have spelled := @spelledAmount?_eq_some_iff raw
  refine ⟨?_, fun v => ?_, fun c member noBlank noDigit noMark => ?_, ?_⟩
  · rw [readAmount?_eq_map, Option.isSome_map, Option.isSome_iff_exists]
    constructor
    · rintro ⟨d, found⟩
      obtain ⟨minus, whole, fraction, amount, -⟩ := spelled.1 found
      exact ⟨minus, whole, fraction, amount⟩
    · rintro ⟨minus, whole, fraction, amount⟩
      exact ⟨_, spelled.2 ⟨minus, whole, fraction, amount, rfl⟩⟩
  · rw [readAmount?_eq_map, Option.map_eq_some_iff]
    constructor
    · rintro ⟨d, found, rfl⟩
      obtain ⟨minus, whole, fraction, amount, rfl⟩ := spelled.1 found
      exact ⟨minus, whole, fraction, _, amount, isRounding_ofPlaces whole fraction,
        toFloat_ofPlaces minus whole fraction⟩
    · rintro ⟨minus, whole, fraction, size, amount, rounds, rfl⟩
      refine ⟨_, spelled.2 ⟨minus, whole, fraction, amount, rfl⟩, ?_⟩
      rw [toFloat_ofPlaces, (isRounding_ofPlaces whole fraction).unique rounds]
  · rw [readAmount?_eq_map, Option.map_eq_none_iff, Option.eq_none_iff_forall_ne_some]
    intro d found
    obtain ⟨minus, whole, fraction, amount, -⟩ := spelled.1 found
    rcases amount.mem (Text.mem_trim member noBlank) with blank | digit | mark
    · exact absurd (noBlank.symm.trans blank) Bool.false_ne_true
    · exact absurd (noDigit.symm.trans digit) Bool.false_ne_true
    · exact noMark mark
  · rintro front digit run back noPoint isDigit grouped rfl
    rw [readAmount?_eq_map, readAmount?_eq_map, spelledAmount?_comma noPoint isDigit grouped]

/-- A comma twice, and a digit three of another script. -/
theorem readAmount?_grammar_digits :
    readAmount? " $1,,234.50" = readAmount? " $1,234.50" ∧ readAmount? "$\u0663" = none := by
  constructor
  · exact (readAmount?_grammar _).2.2.2 [' ', '$'] '1' [','] "234.50".toList (by decide) rfl
      (by simp [IsGrouped]) rfl
  · exact (readAmount?_grammar _).2.2.1 (Char.ofNat 0x663) (by decide +kernel) (by decide) (by decide)
      (by decide)

end Outlay.Export
