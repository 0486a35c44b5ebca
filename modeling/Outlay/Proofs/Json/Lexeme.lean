import Outlay.Json.Node
import Outlay.Json.Value
import Outlay.Proofs.Decimal.Digits

/-!
# Written words

Each word that a text is written with is read as that word, whatever follows it; only a number must
not run on into what follows.
-/

namespace Outlay.Json

open Query (MaximalRun)

/-! Strings. -/

/-- The unit that the escape of a character stands for. -/
def unitOf (c : Char) : StringUnit :=
  if c.toNat < 0x20 ∧ c ∉ ['\x08', '\x0c', '\n', '\r', '\t'] then .code c.toNat else .char c

theorem hexCode?_hexPair : ∀ n < 0x20,
    hexCode? '0' '0' (Nat.digitChar (n / 16)) (Nat.digitChar (n % 16)) = some n := by decide

theorem readString_plain {c : Char} (quote : c ≠ '"') (slash : c ≠ '\\') (visible : ¬c.toNat < 0x20)
    (rest : List Char) :
    readString (c :: rest) = ((readString rest).1.cons (.char c), (readString rest).2) := by
  rw [readString]
  · exact if_neg visible
  · exact quote
  · exact fun same _ => slash same
  · exact fun _ _ _ _ _ same _ => slash same
  · exact fun _ _ same _ => slash same

theorem readString_escape (c : Char) (rest : List Char) :
    readString (escape c ++ rest) = ((readString rest).1.cons (unitOf c), (readString rest).2) := by
  unfold escape
  split
  case h_8 quote slash backspace feed newline carriage tab =>
    by_cases control : c.toNat < 0x20
    · have unit : unitOf c = .code c.toNat := by
        simp_all [unitOf]
      rw [if_pos control, unit]
      simp [hexPair, readString, hexCode?_hexPair _ control]
    · have unit : unitOf c = .char c := if_neg (fun h => control h.1)
      rw [if_neg control, unit]
      exact readString_plain quote slash control rest
  all_goals
    simp [readString, shortEscape?, unitOf]

theorem readString_flatMap_escape (s rest : List Char) :
    readString (s.flatMap escape ++ '"' :: rest) = (⟨s.map unitOf, none⟩, rest) := by
  induction s with
  | nil => simp [readString, RawString.none]
  | cons c s ih =>
    rw [List.flatMap_cons, List.append_assoc, readString_escape, ih]
    rfl

theorem readUnits_unitOf (c : Char) (units : List StringUnit) :
    readUnits none (unitOf c :: units) = (readUnits none units).map (c :: ·) := by
  unfold unitOf
  split
  next control =>
    have low : isLowSurrogate c.toNat = false := by simp [isLowSurrogate]; omega
    have high : isHighSurrogate c.toNat = false := by simp [isHighSurrogate]; omega
    rcases units with _ | ⟨_ | _, units⟩ <;> simp [readUnits, low, high]
  next => rfl

/-- The string that a text is written as. -/
def RawString.ofText (s : String) : RawString := ⟨s.toList.map unitOf, Option.none⟩

theorem readUnits_map_unitOf (s : List Char) : readUnits none (s.map unitOf) = .ok s := by
  induction s with
  | nil => rfl
  | cons c s ih =>
    rw [List.map_cons, readUnits_unitOf, ih]
    rfl

@[simp] theorem RawString.read_ofText (s : String) : (ofText s).read = .ok s := by
  rw [RawString.read, ofText, readUnits_map_unitOf]
  exact congrArg Except.ok (String.ofList_toList)

/-! Words. -/

theorem lexemes_cons {c : Char} (visible : isSpace c = false) (rest : List Char) :
    lexemes (c :: rest) = (readLexeme c rest).1 :: lexemes (readLexeme c rest).2 := by
  rw [lexemes, if_neg (by simp [visible])]

theorem lexemes_gap {gap : List Char} (blank : ∀ c ∈ gap, isSpace c = true) (rest : List Char) :
    lexemes (gap ++ rest) = lexemes rest := by
  induction gap with
  | nil => rfl
  | cons c gap ih =>
    rw [List.forall_mem_cons] at blank
    rw [List.cons_append, lexemes, if_pos blank.1, ih blank.2]

section

variable (rest : List Char)

@[simp] theorem lexemes_openArray : lexemes ('[' :: rest) = .openArray :: lexemes rest :=
  lexemes_cons rfl rest

@[simp] theorem lexemes_closeArray : lexemes (']' :: rest) = .closeArray :: lexemes rest :=
  lexemes_cons rfl rest

@[simp] theorem lexemes_openObject : lexemes ('{' :: rest) = .openObject :: lexemes rest :=
  lexemes_cons rfl rest

@[simp] theorem lexemes_closeObject : lexemes ('}' :: rest) = .closeObject :: lexemes rest :=
  lexemes_cons rfl rest

@[simp] theorem lexemes_comma : lexemes (',' :: rest) = .comma :: lexemes rest :=
  lexemes_cons rfl rest

@[simp] theorem lexemes_colon : lexemes (':' :: rest) = .colon :: lexemes rest :=
  lexemes_cons rfl rest

theorem lexemes_null : lexemes ("null".toList ++ rest) = .null :: lexemes rest :=
  lexemes_cons rfl ('u' :: 'l' :: 'l' :: rest)

theorem lexemes_bool (b : Bool) :
    lexemes ((if b then "true" else "false").toList ++ rest) = .bool b :: lexemes rest := by
  cases b with
  | true => exact lexemes_cons rfl ('r' :: 'u' :: 'e' :: rest)
  | false => exact lexemes_cons rfl ('a' :: 'l' :: 's' :: 'e' :: rest)

theorem lexemes_stringText (s : String) :
    lexemes (stringText s ++ rest) = .string (.ofText s) :: lexemes rest := by
  have written : stringText s ++ rest = '"' :: (s.toList.flatMap escape ++ '"' :: rest) := by
    simp [stringText]
  rw [written, lexemes_cons rfl]
  simp only [readLexeme, readString_flatMap_escape]
  rfl

end

/-! Numbers. -/

/-- A number ends in front of this. -/
def EndsNumber (rest : List Char) : Prop :=
  ∀ c ∈ rest.head?, c.isDigit = false ∧ c ≠ '.' ∧ c ≠ 'e' ∧ c ≠ 'E'

theorem readExponent_none {rest : List Char} (ends : EndsNumber rest) :
    readExponent rest = .ok (none, rest) := by
  cases rest with
  | nil => rfl
  | cons c rest =>
    obtain ⟨-, -, small, large⟩ := ends c rfl
    simp [readExponent, small, large]

theorem readFraction_none {rest : List Char} (ends : ∀ c ∈ rest.head?, c ≠ '.') :
    readFraction rest = .ok ([], rest) := by
  unfold readFraction
  split
  next => exact absurd rfl (ends '.' rfl)
  next => rfl

theorem readFraction_digits {digits rest : List Char} (run : MaximalRun Char.isDigit digits rest)
    (nonempty : digits ≠ []) : readFraction ('.' :: (digits ++ rest)) = .ok (digits, rest) := by
  simp [readFraction, run.takeWhile_eq, run.dropWhile_eq, nonempty]

theorem readUnsigned_eq {whole rest : List Char} (negative : Bool)
    (run : MaximalRun Char.isDigit whole rest) (nonempty : whole ≠ [])
    (leading : ∀ more, whole = '0' :: more → more = []) :
    readUnsigned negative (whole ++ rest) = readTail negative whole rest := by
  rw [readUnsigned, run.takeWhile_eq, run.dropWhile_eq]
  split
  next empty => exact absurd rfl nonempty
  next second more => cases leading _ rfl
  next => rfl

theorem readLexeme_number {c : Char} (front : c = '-' ∨ c.isDigit = true) (rest : List Char) :
    readLexeme c rest =
      match readNumeral (c :: rest) with
      | .ok (n, after) => (.number (.ok n), after)
      | .error f => (.number (.error f), []) := by
  unfold readLexeme
  split
  case h_11 =>
    refine (if_pos (by simpa using front)).trans ?_
    cases readNumeral (c :: rest) <;> rfl
  all_goals exact absurd front (by decide)

theorem isSpace_eq_false_of_number {c : Char} (front : c = '-' ∨ c.isDigit = true) :
    isSpace c = false := by
  rw [← Bool.not_eq_true]
  intro blank
  simp only [isSpace, Bool.or_eq_true, beq_iff_eq] at blank
  rcases blank with ((rfl | rfl) | rfl) | rfl <;> exact absurd front (by decide)

theorem readNumeral_signed {c : Char} (digit : c.isDigit = true) (negative : Bool) (rest : List Char) :
    readNumeral (Decimal.signed negative (c :: rest)) = readUnsigned negative (c :: rest) := by
  cases negative with
  | true => rfl
  | false =>
    change readNumeral (c :: rest) = _
    unfold readNumeral
    split
    next heq =>
      obtain ⟨rfl, -⟩ := List.cons.inj heq
      exact absurd digit (by decide)
    next => rfl

theorem isDigit_of_readUnsigned {negative : Bool} {c : Char} {s : List Char} {found : Numeral × List Char}
    (read : readUnsigned negative (c :: s) = .ok found) : c.isDigit = true := by
  by_contra other
  have none : (c :: s).takeWhile Char.isDigit = [] := List.takeWhile_cons_of_neg other
  rw [readUnsigned, none] at read
  cases read

theorem lexemes_signed {negative : Bool} {text rest : List Char} {n : Numeral}
    (read : readUnsigned negative (text ++ rest) = .ok (n, rest)) :
    lexemes (Decimal.signed negative text ++ rest) = .number (.ok n) :: lexemes rest := by
  cases text with
  | nil => exact absurd (length_readUnsigned_lt read) (Nat.lt_irrefl _)
  | cons c more =>
    have digit := isDigit_of_readUnsigned read
    have numeral := readNumeral_signed digit negative (more ++ rest)
    rw [List.cons_append] at read
    rw [read] at numeral
    cases negative with
    | true =>
      change lexemes ('-' :: (c :: (more ++ rest))) = _
      rw [lexemes_cons (isSpace_eq_false_of_number (.inl rfl)), readLexeme_number (.inl rfl)]
      change readNumeral ('-' :: (c :: (more ++ rest))) = _ at numeral
      rw [numeral]
    | false =>
      change lexemes (c :: (more ++ rest)) = _
      rw [lexemes_cons (isSpace_eq_false_of_number (.inr digit)), readLexeme_number (.inr digit)]
      change readNumeral (c :: (more ++ rest)) = _ at numeral
      rw [numeral]

theorem readTail_whole {whole rest : List Char} (negative : Bool) (ends : EndsNumber rest) :
    readTail negative whole rest = .ok (.whole negative (Nat.ofDigitChars 10 whole 0), rest) := by
  rw [readTail, readFraction_none fun c front => (ends c front).2.1]
  simp only [bind, Except.bind, readExponent_none ends]
  rfl

theorem readTail_fraction {whole fraction rest : List Char} (negative : Bool)
    (run : MaximalRun Char.isDigit fraction rest) (nonempty : fraction ≠ []) (ends : EndsNumber rest) :
    readTail negative whole ('.' :: (fraction ++ rest)) =
      .ok (.decimal (.ofPlaces negative whole fraction 0), rest) := by
  rw [readTail, readFraction_digits run nonempty]
  simp only [bind, Except.bind, readExponent_none ends, Numeral.of, List.isEmpty_eq_false_iff.2 nonempty]
  rfl

/-- Digits with a point among them, of which a zero stands in front of no other before the point. -/
theorem readUnsigned_point {whole fraction rest : List Char} (negative : Bool)
    (wholeDigits : ∀ c ∈ whole, c.isDigit = true) (nonempty : whole ≠ [])
    (leading : ∀ more, whole = '0' :: more → more = [])
    (fractionDigits : ∀ c ∈ fraction, c.isDigit = true) (nonempty' : fraction ≠ [])
    (ends : EndsNumber rest) :
    readUnsigned negative (whole ++ '.' :: (fraction ++ rest)) =
      .ok (.decimal (.ofPlaces negative whole fraction 0), rest) := by
  have run := Decimal.maximalRun_cons (c := '.') wholeDigits rfl (fraction ++ rest)
  rw [readUnsigned_eq negative run nonempty leading]
  exact readTail_fraction negative ⟨fractionDigits, fun c front => (ends c front).1⟩ nonempty' ends

theorem readPower_toDigits (power : Int) {rest : List Char} (ends : EndsNumber rest) :
    readPower ((if power < 0 then '-' else '+') :: (Nat.toDigits 10 power.natAbs ++ rest)) =
      .ok (power, rest) := by
  have run := Decimal.maximalRun_toDigits power.natAbs fun c front => (ends c front).1
  have sign : Decimal.sign ((if power < 0 then '-' else '+') ::
      (Nat.toDigits 10 power.natAbs ++ rest)) =
        (decide (power < 0), Nat.toDigits 10 power.natAbs ++ rest) := by
    by_cases negative : power < 0 <;> simp [negative, Decimal.sign]
  have size : (if power < 0 then -(power.natAbs : Int) else power.natAbs) = power := by
    split <;> omega
  rw [readPower, sign]
  simp only [run.takeWhile_eq, run.dropWhile_eq, List.isEmpty_eq_false_iff.2 Nat.toDigits_ne_nil,
    Nat.ofDigitChars_ten_toDigits, decide_eq_true_eq, size]
  rfl

/-- A power of ten behind the digits. -/
def powerText (power : Int) : List Char :=
  'e' :: (if power < 0 then '-' else '+') :: Nat.toDigits 10 power.natAbs

theorem readTail_power {fraction s rest : List Char} {power : Int} (negative : Bool) (whole : List Char)
    (read : readFraction s = .ok (fraction, powerText power ++ rest)) (ends : EndsNumber rest) :
    readTail negative whole s = .ok (.decimal (.ofPlaces negative whole fraction power), rest) := by
  have exponent : readExponent (powerText power ++ rest) = .ok (some power, rest) := by
    change (readPower ((if power < 0 then '-' else '+') :: (Nat.toDigits 10 power.natAbs ++ rest))).map
      _ = _
    rw [readPower_toDigits power ends]
    rfl
  rw [readTail, read]
  simp only [bind, Except.bind, exponent, Numeral.of, Option.isNone_some, Bool.and_false]
  rfl

/-- One digit, perhaps more behind a point, and a power. -/
theorem readUnsigned_power {c : Char} {fraction rest : List Char} (negative : Bool)
    (digit : c.isDigit = true) (fractionDigits : ∀ c ∈ fraction, c.isDigit = true) (power : Int)
    (ends : EndsNumber rest) :
    readUnsigned negative ([c] ++ ((if fraction.isEmpty then [] else '.' :: fraction) ++
      (powerText power ++ rest))) = .ok (.decimal (.ofPlaces negative [c] fraction power), rest) := by
  have one : ∀ d ∈ [c], d.isDigit = true := List.forall_mem_singleton.2 digit
  have leading : ∀ more, [c] = '0' :: more → more = [] := fun more same => (List.cons.inj same).2.symm
  cases fraction with
  | nil =>
    have run : MaximalRun Char.isDigit [c] (powerText power ++ rest) := Decimal.maximalRun_cons one rfl _
    refine (readUnsigned_eq negative run (List.cons_ne_nil c []) leading).trans ?_
    apply readTail_power negative [c] (readFraction_none _) ends
    rintro d ⟨⟩
    decide
  | cons d fraction =>
    have run := Decimal.maximalRun_cons (c := '.') one rfl (d :: fraction ++ (powerText power ++ rest))
    have run' : MaximalRun Char.isDigit (d :: fraction) (powerText power ++ rest) :=
      Decimal.maximalRun_cons fractionDigits rfl _
    refine (readUnsigned_eq negative run (List.cons_ne_nil c []) leading).trans ?_
    exact readTail_power negative [c] (readFraction_digits run' (List.cons_ne_nil d fraction)) ends

theorem toDigits_leading {n : Nat} {more : List Char} (h : Nat.toDigits 10 n = '0' :: more) :
    more = [] := by
  rcases Nat.eq_zero_or_pos n with rfl | positive
  · cases h
    rfl
  · obtain ⟨c, rest, digits, nonzero⟩ := Decimal.exists_toDigits_eq_cons positive
    rw [digits] at h
    exact absurd (List.cons.inj h).1 nonzero

theorem readUnsigned_toDigits (negative : Bool) (n : Nat) {rest : List Char} (ends : EndsNumber rest) :
    readUnsigned negative (Nat.toDigits 10 n ++ rest) = .ok (.whole negative n, rest) := by
  have run := Decimal.maximalRun_toDigits n fun c front => (ends c front).1
  rw [readUnsigned_eq negative run Nat.toDigits_ne_nil fun _ => toDigits_leading,
    readTail_whole negative ends, Nat.ofDigitChars_ten_toDigits]

theorem lexemes_intText (n : Int) {rest : List Char} (ends : EndsNumber rest) :
    lexemes (Decimal.intText n ++ rest) = .number (.ok (.whole (n < 0) n.natAbs)) :: lexemes rest := by
  exact lexemes_signed (readUnsigned_toDigits (n < 0) n.natAbs ends)

end Outlay.Json
