import Outlay.Export.Listing
import Outlay.Proofs.Binary64.Parts
import Outlay.Proofs.Json.Written
import Outlay.Proofs.Text.Trim

/-!
# Amounts without a sign

Digits with or without a fraction are read as the same float from a text and from a JSON number.
-/

namespace Outlay.Export

open Json
open Query (MaximalRun)

/-- The digits of a number; a zero in front of others is not one of them. -/
structure IsPlain (whole fraction : List Char) : Prop where
  wholeDigits : ∀ c ∈ whole, c.isDigit = true
  fractionDigits : ∀ c ∈ fraction, c.isDigit = true
  nonempty : whole ≠ []
  leading : ∀ more, whole = '0' :: more → more = []

/-- Digits with a point between them if there is something to put behind it. -/
def numberText (whole fraction : List Char) : List Char :=
  whole ++ if fraction.isEmpty then [] else '.' :: fraction

def plainValue (whole fraction : List Char) : Float := (Decimal.ofPlaces false whole fraction 0).toFloat

/-- A number as JSON writes it, without a sign and a power, that is within the range of floats. -/
def IsNumberText (s : String) : Prop :=
  ∃ whole fraction, IsPlain whole fraction ∧ s.toList = numberText whole fraction ∧
    (plainValue whole fraction).isFinite = true

theorem amountPlaces?_cons {c : Char} (digit : c.isDigit = true) (rest : List Char) :
    amountPlaces? (c :: rest) =
      match rest.dropWhile fun c => c.isDigit || c == ',' with
      | [] => some (c :: (rest.takeWhile fun c => c.isDigit || c == ',').filter Char.isDigit, [])
      | '.' :: fraction =>
        if !fraction.isEmpty && fraction.all Char.isDigit then
          some (c :: (rest.takeWhile fun c => c.isDigit || c == ',').filter Char.isDigit, fraction)
        else none
      | _ => none := by
  have notPoint : c ≠ '.' := by
    rintro rfl
    exact absurd digit (by decide)
  rw [amountPlaces?]
  · simp only [digit]
    rfl
  · exact notPoint

section

variable {whole fraction : List Char} (plain : IsPlain whole fraction)

include plain

theorem IsPlain.exists_cons : ∃ c more, whole = c :: more ∧ c.isDigit = true ∧
    numberText whole fraction = c :: numberText more fraction := by
  obtain ⟨c, more, rfl⟩ := List.exists_cons_of_ne_nil plain.nonempty
  exact ⟨c, more, rfl, plain.wholeDigits c List.mem_cons_self, rfl⟩

theorem IsPlain.trim_numberText : Text.trim (numberText whole fraction) = numberText whole fraction := by
  apply (Text.isTrimmed_of_forall _).trim_eq
  intro c member
  unfold numberText at member
  rcases List.mem_append.1 member with digit | behind
  · exact Text.isBlank_eq_false_of_isDigit (plain.wholeDigits c digit)
  · split at behind
    · cases behind
    · rcases List.mem_cons.1 behind with rfl | digit
      · rfl
      · exact Text.isBlank_eq_false_of_isDigit (plain.fractionDigits c digit)

theorem IsPlain.amountPlaces?_numberText :
    amountPlaces? (numberText whole fraction) = some (whole, fraction) := by
  obtain ⟨c, more, rfl, digit, text⟩ := plain.exists_cons
  have digits : ∀ c ∈ more, c.isDigit = true := fun c member =>
    plain.wholeDigits c (List.mem_cons_of_mem _ member)
  have run : MaximalRun (fun c => c.isDigit || c == ',') more
      (if fraction.isEmpty then [] else '.' :: fraction) := by
    refine ⟨fun c member => by rw [digits c member, Bool.true_or], fun c front => ?_⟩
    split at front <;> cases front
    rfl
  rw [text, amountPlaces?_cons digit, numberText, run.takeWhile_eq, run.dropWhile_eq,
    List.filter_eq_self.2 digits]
  cases fraction with
  | nil => rfl
  | cons d fraction =>
    have all : (d :: fraction).all Char.isDigit = true := List.all_eq_true.2 plain.fractionDigits
    simp [all]

theorem IsPlain.readAmountChars?_numberText :
    readAmountChars? (numberText whole fraction) = some (plainValue whole fraction) := by
  obtain ⟨c, more, rfl, digit, text⟩ := plain.exists_cons
  have start : ∀ d ∈ (numberText (c :: more) fraction).head?, Text.isBlank d = false := by
    rw [text]
    rintro d ⟨⟩
    exact Text.isBlank_eq_false_of_isDigit digit
  have noDollar : dropDollar (numberText (c :: more) fraction) = numberText (c :: more) fraction := by
    rw [text, dropDollar]
    rintro rest same
    obtain ⟨rfl, -⟩ := List.cons.inj same
    exact absurd digit (by decide)
  unfold readAmountChars?
  split
  next negative rest heq =>
    split at heq
    next more' signed =>
      rw [text] at signed
      obtain ⟨rfl, -⟩ := List.cons.inj signed
      exact absurd digit (by decide)
    next =>
      obtain ⟨rfl, rfl⟩ := Prod.mk.inj heq
      simp only [Text.dropWhile_eq_self start, noDollar, plain.amountPlaces?_numberText]
      rfl

/-- The text of the number is read as it is written. -/
theorem IsPlain.readUnsigned_numberText {rest : List Char} (ends : EndsNumber rest) :
    readUnsigned false (numberText whole fraction ++ rest) =
      .ok (.of false whole fraction none, rest) := by
  have noDigit : ∀ c ∈ rest.head?, c.isDigit = false := fun c front => (ends c front).1
  unfold numberText
  cases fraction with
  | nil =>
    have run : MaximalRun Char.isDigit whole rest := ⟨plain.wholeDigits, noDigit⟩
    simp only [List.isEmpty_nil, if_true, List.append_nil]
    rw [readUnsigned_eq false run plain.nonempty plain.leading, readTail_whole false ends]
    rfl
  | cons d fraction =>
    simp only [List.isEmpty_cons, List.append_assoc]
    rw [if_neg (by decide)]
    exact readUnsigned_point false plain.wholeDigits plain.nonempty plain.leading plain.fractionDigits
      (List.cons_ne_nil d fraction) ends

theorem IsPlain.readNumeral_eq :
    readNumeral (numberText whole fraction) = .ok (.of false whole fraction none, []) := by
  have ends : EndsNumber [] := by
    rintro c ⟨⟩
  have read := plain.readUnsigned_numberText ends
  rw [List.append_nil] at read
  obtain ⟨c, more, rfl, digit, text⟩ := plain.exists_cons
  rw [text] at read ⊢
  exact (readNumeral_signed digit false _).trans read

theorem IsPlain.readAmount?_eq {s : String} (text : s.toList = numberText whole fraction) :
    readAmount? s = some (plainValue whole fraction) := by
  rw [readAmount?, text, plain.trim_numberText, plain.readAmountChars?_numberText]

theorem IsPlain.lexemes_numberText {rest : List Char} (ends : EndsNumber rest) :
    lexemes (numberText whole fraction ++ rest) =
      .number (.ok (.of false whole fraction none)) :: lexemes rest := by
  have words := lexemes_signed (plain.readUnsigned_numberText ends)
  exact words

end

/-- A number of 64 bits is made a float only by who wants one. -/
theorem readFloat_read_of {whole fraction : List Char}
    (finite : (plainValue whole fraction).isFinite = true) :
    ∃ n, Numeral.read (.of false whole fraction none) = .ok n ∧
      (Kind.ofNumber n).readFloat = .ok (plainValue whole fraction) := by
  have noInf := Binary64.isInf_eq_false_of_isFinite finite
  cases fraction with
  | nil =>
    have value : plainValue whole [] = Decimal.toFloat ⟨false, Nat.ofDigitChars 10 whole 0, 0⟩ := by
      rw [plainValue, Decimal.ofPlaces, List.append_nil]
      rfl
    rw [value] at noInf ⊢
    change ∃ n, Numeral.read (.whole false _) = _ ∧ _
    unfold Numeral.read
    by_cases small : Nat.ofDigitChars 10 whole 0 < UInt64.size
    · refine ⟨.integer (Nat.ofDigitChars 10 whole 0 : Nat), if_pos small, ?_⟩
      have unsigned : ¬(Nat.ofDigitChars 10 whole 0 : Int) < 0 := by omega
      simp [Kind.ofNumber, Kind.readFloat, unsigned]
    · refine ⟨.float _, (if_neg small).trans (if_neg (by simp [noInf])), rfl⟩
  | cons d fraction =>
    exact ⟨.float _, if_neg (by simp [plainValue] at noInf; simp [noInf]), rfl⟩

theorem ofJson_number {n : Numeral} {number : Number} {x : Float} (read : n.read = .ok number)
    (float : (Kind.ofNumber number).readFloat = .ok x) :
    ListedAmount.ofJson (.number (.ok n)) = .ok (.number x) := by
  unfold ListedAmount.ofJson
  rw [Node.value, readNumber]
  simp only [Except.bind, read]
  cases number with
  | integer i =>
    change (do return ListedAmount.number (← (Kind.integer i).readFloat)) = _
    rw [show (Kind.integer i).readFloat = .ok x from float]
    rfl
  | float y =>
    cases float
    rfl

theorem ofJson_ofText (s : String) : ListedAmount.ofJson (.ofText s) = .ok (.text s) := by
  rw [ListedAmount.ofJson, Node.value_ofText]
  rfl

end Outlay.Export
