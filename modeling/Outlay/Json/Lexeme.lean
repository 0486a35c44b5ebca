import Outlay.Decimal

/-!
The words that a JSON text is made of. A word may be spoiled; it is kept as far as it goes, because
a reader that looks for something else never gets to see what is wrong with it.
-/

namespace Outlay.Json

/-- What is wrong with a text: it has something it must not have, or it ends too early. -/
inductive Fault where
  | malformed
  | truncated
  deriving DecidableEq, Repr

/-- A number as it is written. -/
inductive Numeral where
  /-- Digits and no more. -/
  | whole (negative : Bool) (n : Nat)
  /-- A fraction or a power is written too. -/
  | decimal (d : Decimal)
  deriving DecidableEq, Repr

/-- A character of a string, or a code unit of 16 bits that an escape stands for. -/
inductive StringUnit where
  | char (c : Char)
  | code (n : Nat)
  deriving DecidableEq, Repr

/-- A string up to its closing quote, or up to what spoils it. -/
structure RawString where
  units : List StringUnit
  fault : Option Fault
  deriving DecidableEq, Repr

inductive Lexeme where
  | openArray
  | closeArray
  | openObject
  | closeObject
  | comma
  | colon
  | null
  | bool (b : Bool)
  | number (n : Except Fault Numeral)
  | string (s : RawString)
  /-- Starts like `null`, `true` or `false` and goes on differently. -/
  | misspelt (f : Fault)
  /-- No word starts with this character. -/
  | stray

namespace RawString

def none : RawString := ⟨[], .none⟩

def spoiled (f : Fault) : RawString := ⟨[], some f⟩

def cons (u : StringUnit) (s : RawString) : RawString := ⟨u :: s.units, s.fault⟩

end RawString

/-- Blanks that may stand between words. -/
def isSpace (c : Char) : Bool := c == ' ' || c == '\n' || c == '\t' || c == '\r'

def hexDigit? (c : Char) : Option Nat :=
  if '0' ≤ c ∧ c ≤ '9' then some (c.toNat - 48)
  else if 'a' ≤ c ∧ c ≤ 'f' then some (c.toNat - 87)
  else if 'A' ≤ c ∧ c ≤ 'F' then some (c.toNat - 55)
  else none

def hexCode? (a b c d : Char) : Option Nat := do
  return (((← hexDigit? a) * 16 + (← hexDigit? b)) * 16 + (← hexDigit? c)) * 16 + (← hexDigit? d)

/-- The character that a backslash and this one stand for. -/
def shortEscape? (c : Char) : Option Char :=
  match c with
  | '"' => some '"'
  | '\\' => some '\\'
  | '/' => some '/'
  | 'b' => some '\x08'
  | 'f' => some '\x0c'
  | 'n' => some '\n'
  | 'r' => some '\r'
  | 't' => some '\t'
  | _ => none

/-- A code needs four bytes; fewer of them mean that the text is cut off. -/
def codeFault (s : List Char) : Fault :=
  if (String.ofList s).utf8ByteSize < 4 then .truncated else .malformed

/-- The string behind an opening quote, and what follows it. -/
def readString : List Char → RawString × List Char
  | [] => (.spoiled .truncated, [])
  | '"' :: rest => (.none, rest)
  | ['\\'] => (.spoiled .truncated, [])
  | '\\' :: 'u' :: a :: b :: c :: d :: rest =>
    match hexCode? a b c d with
    | some n =>
      let (s, after) := readString rest
      (s.cons (.code n), after)
    | .none => (.spoiled .malformed, [])
  | '\\' :: c :: rest =>
    match shortEscape? c with
    | some e =>
      let (s, after) := readString rest
      (s.cons (.char e), after)
    | .none => (.spoiled (if c = 'u' then codeFault rest else .malformed), [])
  | c :: rest =>
    if c.toNat < 0x20 then (.spoiled .malformed, [])
    else
      let (s, after) := readString rest
      (s.cons (.char c), after)

/-- What is wrong where digits have to come. -/
def digitFault (s : List Char) : Fault := if s.isEmpty then .truncated else .malformed

def readPower (s : List Char) : Except Fault (Int × List Char) :=
  let (negative, rest) := Decimal.sign s
  let digits := rest.takeWhile Char.isDigit
  let after := rest.dropWhile Char.isDigit
  if digits.isEmpty then .error (digitFault after)
  else
    let n : Int := Nat.ofDigitChars 10 digits 0
    .ok (if negative then -n else n, after)

/-- The digits behind a point, if there is one. -/
def readFraction (s : List Char) : Except Fault (List Char × List Char) :=
  match s with
  | '.' :: rest =>
    let digits := rest.takeWhile Char.isDigit
    let after := rest.dropWhile Char.isDigit
    if digits.isEmpty then .error (digitFault after) else .ok (digits, after)
  | _ => .ok ([], s)

/-- The power of ten, if there is one. -/
def readExponent (s : List Char) : Except Fault (Option Int × List Char) :=
  match s with
  | [] => .ok (none, [])
  | c :: rest =>
    if c = 'e' ∨ c = 'E' then (readPower rest).map fun (power, after) => (some power, after)
    else .ok (none, c :: rest)

def Numeral.of (negative : Bool) (whole fraction : List Char) (power : Option Int) : Numeral :=
  if fraction.isEmpty && power.isNone then .whole negative (Nat.ofDigitChars 10 whole 0)
  else .decimal (.ofPlaces negative whole fraction (power.getD 0))

/-- The rest of a number behind its whole part. -/
def readTail (negative : Bool) (whole s : List Char) : Except Fault (Numeral × List Char) := do
  let (fraction, rest) ← readFraction s
  let (power, after) ← readExponent rest
  return (.of negative whole fraction power, after)

/-- A number; no other digit may follow a leading zero. -/
def readUnsigned (negative : Bool) (s : List Char) : Except Fault (Numeral × List Char) :=
  match s.takeWhile Char.isDigit with
  | [] => .error (digitFault s)
  | '0' :: _ :: _ => .error .malformed
  | whole => readTail negative whole (s.dropWhile Char.isDigit)

def readNumeral (s : List Char) : Except Fault (Numeral × List Char) :=
  match s with
  | '-' :: rest => readUnsigned true rest
  | _ => readUnsigned false s

/-- The rest of a word that has to be spelt in one way. -/
def readWord (word : Lexeme) : List Char → List Char → Lexeme × List Char
  | [], s => (word, s)
  | _ :: _, [] => (.misspelt .truncated, [])
  | w :: ws, c :: s => if c = w then readWord word ws s else (.misspelt .malformed, [])

/-- The word at the front of a text that does not start with a blank, and what follows it. After a
spoiled word nothing follows, since nobody reads on. -/
def readLexeme (c : Char) (rest : List Char) : Lexeme × List Char :=
  match c with
  | '[' => (.openArray, rest)
  | ']' => (.closeArray, rest)
  | '{' => (.openObject, rest)
  | '}' => (.closeObject, rest)
  | ',' => (.comma, rest)
  | ':' => (.colon, rest)
  | '"' =>
    let (s, after) := readString rest
    (.string s, after)
  | 'n' => readWord .null ['u', 'l', 'l'] rest
  | 't' => readWord (.bool true) ['r', 'u', 'e'] rest
  | 'f' => readWord (.bool false) ['a', 'l', 's', 'e'] rest
  | c =>
    if c = '-' || c.isDigit then
      match readNumeral (c :: rest) with
      | .ok (n, after) => (.number (.ok n), after)
      | .error f => (.number (.error f), [])
    else (.stray, [])

theorem length_dropWhile_le (p : Char → Bool) (s : List Char) :
    (s.dropWhile p).length ≤ s.length := (List.dropWhile_sublist p).length_le

theorem length_readString_le (s : List Char) : (readString s).2.length ≤ s.length := by
  fun_induction readString s <;> simp_all <;> omega

theorem length_sign_le (s : List Char) : (Decimal.sign s).2.length ≤ s.length := by
  unfold Decimal.sign
  split <;> simp

theorem length_readPower_le {s after : List Char} {power : Int}
    (h : readPower s = .ok (power, after)) : after.length ≤ s.length := by
  unfold readPower at h
  simp only at h
  split at h
  next => simp at h
  next =>
    obtain ⟨-, rfl⟩ := Prod.mk.inj (Except.ok.inj h)
    exact Nat.le_trans (length_dropWhile_le _ _) (length_sign_le s)

theorem length_readFraction_le {s digits after : List Char}
    (h : readFraction s = .ok (digits, after)) : after.length ≤ s.length := by
  unfold readFraction at h
  split at h
  next rest =>
    simp only at h
    split at h
    next => simp at h
    next =>
      obtain ⟨-, rfl⟩ := Prod.mk.inj (Except.ok.inj h)
      exact Nat.le_succ_of_le (length_dropWhile_le _ _)
  next =>
    obtain ⟨-, rfl⟩ := Prod.mk.inj (Except.ok.inj h)
    exact Nat.le_refl _

theorem length_readExponent_le {s after : List Char} {power : Option Int}
    (h : readExponent s = .ok (power, after)) : after.length ≤ s.length := by
  unfold readExponent at h
  split at h
  next => simp_all
  next c rest =>
    split at h
    next =>
      cases found : readPower rest with
      | error => simp [found, Except.map] at h
      | ok pair =>
        simp only [found, Except.map, Except.ok.injEq, Prod.mk.injEq] at h
        obtain ⟨-, rfl⟩ := h
        exact Nat.le_succ_of_le (length_readPower_le found)
    next =>
      obtain ⟨-, rfl⟩ := Prod.mk.inj (Except.ok.inj h)
      exact Nat.le_refl _

theorem length_readTail_le {negative : Bool} {whole s after : List Char} {n : Numeral}
    (h : readTail negative whole s = .ok (n, after)) : after.length ≤ s.length := by
  unfold readTail at h
  cases fraction : readFraction s with
  | error => simp [fraction, bind, Except.bind] at h
  | ok pair =>
    cases exponent : readExponent pair.2 with
    | error => simp [fraction, exponent, bind, Except.bind] at h
    | ok power =>
      simp only [fraction, exponent, bind, Except.bind, pure, Except.pure, Except.ok.injEq,
        Prod.mk.injEq] at h
      obtain ⟨-, rfl⟩ := h
      exact Nat.le_trans (length_readExponent_le exponent) (length_readFraction_le fraction)

theorem length_readUnsigned_lt {negative : Bool} {s after : List Char} {n : Numeral}
    (h : readUnsigned negative s = .ok (n, after)) : after.length < s.length := by
  have whole : s.takeWhile Char.isDigit ++ s.dropWhile Char.isDigit = s :=
    List.takeWhile_append_dropWhile
  have size := congrArg List.length whole
  simp only [List.length_append] at size
  unfold readUnsigned at h
  split at h
  next => simp at h
  next => simp at h
  next nonempty _ =>
    have := List.length_pos_iff.2 nonempty
    have := length_readTail_le h
    omega

theorem length_readNumeral_lt {s after : List Char} {n : Numeral}
    (h : readNumeral s = .ok (n, after)) : after.length < s.length := by
  unfold readNumeral at h
  split at h
  next => exact Nat.lt_succ_of_lt (length_readUnsigned_lt h)
  next => exact length_readUnsigned_lt h

theorem length_readWord_le (word : Lexeme) (ws s : List Char) :
    (readWord word ws s).2.length ≤ s.length := by
  fun_induction readWord word ws s with
  | case1 => exact Nat.le_refl _
  | case2 => exact Nat.le_refl _
  | case3 _ _ _ ih => exact Nat.le_succ_of_le ih
  | case4 => exact Nat.zero_le _

theorem length_readLexeme_le (c : Char) (rest : List Char) :
    (readLexeme c rest).2.length ≤ rest.length := by
  unfold readLexeme
  split
  case h_7 => exact length_readString_le rest
  case h_8 | h_9 | h_10 => exact length_readWord_le _ _ _
  case h_11 =>
    split
    next =>
      cases found : readNumeral (_ :: rest) with
      | error => simp
      | ok pair => exact Nat.le_of_lt_succ (length_readNumeral_lt found)
    next => simp
  all_goals exact Nat.le_refl _

/-- The words of a text. -/
def lexemes (s : List Char) : List Lexeme :=
  match s with
  | [] => []
  | c :: rest =>
    if isSpace c then lexemes rest
    else
      let found := readLexeme c rest
      found.1 :: lexemes found.2
termination_by s.length
decreasing_by
  · simp
  · have := length_readLexeme_le c rest
    simp only [List.length_cons]
    omega

end Outlay.Json
