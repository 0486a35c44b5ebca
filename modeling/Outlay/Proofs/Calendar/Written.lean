import Outlay.Proofs.Calendar.Text
import Outlay.Proofs.Except

/-!
# Fields that are written out

Dates and times may be written whose fields make up no day or no time of day. A pattern that accepts
such a text has read just the fields that are written in it, so none of them is ever carried over into
another.
-/

namespace Outlay.Calendar

namespace Fields

/-- The date as in `2026-02-18`. -/
def dateText (f : Fields) : List Char :=
  (Day.yearText f.year ++ '-' :: Day.digits 2 f.month) ++ '-' :: Day.digits 2 f.day

/-- Hour and minute as in `09:30`. -/
def minuteText (f : Fields) : List Char := Day.digits 2 f.hour ++ ':' :: Day.digits 2 f.minute

/-- The time down to the second, as in `09:30:00`. -/
def secondText (f : Fields) : List Char := f.minuteText ++ ':' :: Day.digits 2 f.second

/-- The digits behind the point if there are so many of them. -/
def fractionText (f : Fields) (places : Nat) : List Char :=
  '.' :: Day.digits places (f.nano / 10 ^ (9 - places))

/-- Each field has digits enough to be written with. -/
structure Fit (f : Fields) : Prop where
  month : f.month < 100
  day : f.day < 100
  hour : f.hour < 100
  minute : f.minute < 100
  second : f.second < 100
  nano : f.nano < 10 ^ 9

/-- There is such a day with such a time. Second 60 is a leap second. -/
structure IsMoment (f : Fields) : Prop where
  isDate : IsDate f.year f.month f.day
  hour : f.hour < 24
  minute : f.minute < 60
  second : f.second ≤ 60

/-- The layouts in which all the fields can be written, what is left out being zero. -/
inductive WrittenAs (f : Fields) : List Char → Prop where
  | date (hour : f.hour = 0) (minute : f.minute = 0) (second : f.second = 0) (nano : f.nano = 0) :
    WrittenAs f f.dateText
  | minute (second : f.second = 0) (nano : f.nano = 0) : WrittenAs f (f.dateText ++ ' ' :: f.minuteText)
  | second (mark : Char) (between : mark = ' ' ∨ mark = 'T') (nano : f.nano = 0) :
    WrittenAs f (f.dateText ++ mark :: f.secondText)
  | fraction (mark : Char) (places : Nat) (between : mark = ' ' ∨ mark = 'T') (positive : 0 < places)
    (atMost : places ≤ 9) (exact : 10 ^ (9 - places) ∣ f.nano) :
    WrittenAs f (f.dateText ++ mark :: (f.secondText ++ f.fractionText places))

end Fields

/-! What an item has read. -/

theorem readItems_cons_eq_ok {item : Item} {items : List Item} {f f' : Fields} {s : List Char}
    (h : readItems f (item :: items) s = .ok f') :
    ∃ next rest, item.read f s = .ok (next, rest) ∧ readItems next items rest = .ok f' := by
  obtain ⟨⟨next, rest⟩, read, more⟩ := bind_eq_ok_iff.1 h
  exact ⟨next, rest, read, more⟩

theorem readItems_nil_eq_ok {f f' : Fields} {s : List Char} (h : readItems f [] s = .ok f') :
    s = [] ∧ f' = f := by
  cases s with
  | nil =>
    cases h
    exact ⟨rfl, rfl⟩
  | cons => cases h

theorem eq_of_smallNumber_digits {least most n : Nat} (small : n < 100) {rest : List Char}
    {p : Nat × List Char} (h : smallNumber least most (Day.digits 2 n ++ rest) = .ok p) : p = (n, rest) := by
  rw [smallNumber, Text.dropWhile_eq_self (isBlank_head_digits 2 n rest),
    number_digits (by decide) small] at h
  simp only [bind, Except.bind] at h
  split at h
  · exact (Except.ok.inj h).symm
  · cases h

theorem eq_of_yearNumber_yearText {year : Int} {rest : List Char}
    (ends : ∀ c ∈ rest.head?, c.isDigit = false) {p : Int × List Char}
    (h : yearNumber (Day.yearText year ++ rest) = .ok p) : p = (year, rest) := by
  have read := longNumber_digits 4 year.natAbs ends
  unfold Day.yearText at h
  split at h
  next plain =>
    rw [yearNumber_digits (by omega), Int.toNat_of_nonneg plain.1] at h
    exact (Except.ok.inj h).symm
  next =>
    by_cases negative : year < 0
    · have size : -(year.natAbs : Int) = year := by omega
      simp only [negative, if_true, List.cons_append, yearNumber, read, bind, Except.bind, size] at h
      split at h
      · exact (Except.ok.inj h).symm
      · cases h
    · have size : (year.natAbs : Int) = year := by omega
      simp only [negative, if_false, List.cons_append, yearNumber, read, bind, Except.bind, size] at h
      split at h
      · exact (Except.ok.inj h).symm
      · cases h

/-- An item of at most two digits. -/
def Item.IsPair (item : Item) : Prop :=
  item = .month ∨ item = .day ∨ item = .hour ∨ item = .minute ∨ item = .second

/-- Sets the field of such an item. -/
def Item.put (item : Item) (f : Fields) (n : Nat) : Fields :=
  match item with
  | .month => { f with month := n }
  | .day => { f with day := n }
  | .hour => { f with hour := n }
  | .minute => { f with minute := n }
  | .second => { f with second := n }
  | _ => f

section

variable {items : List Item} {f f' : Fields} {rest : List Char}

theorem readItems_of_pair {item : Item} (pair : item.IsPair) {n : Nat} (small : n < 100)
    (h : readItems f (item :: items) (Day.digits 2 n ++ rest) = .ok f') :
    readItems (item.put f n) items rest = .ok f' := by
  obtain ⟨next, behind, read, more⟩ := readItems_cons_eq_ok h
  rcases pair with rfl | rfl | rfl | rfl | rfl
  all_goals
    obtain ⟨p, number, same⟩ := bind_eq_ok_iff.1 read
    obtain rfl := eq_of_smallNumber_digits small number
    cases same
    exact more

theorem readItems_of_year {year : Int} (ends : ∀ c ∈ rest.head?, c.isDigit = false)
    (h : readItems f (.year :: items) (Day.yearText year ++ rest) = .ok f') :
    readItems { f with year } items rest = .ok f' := by
  obtain ⟨next, behind, read, more⟩ := readItems_cons_eq_ok h
  rw [Item.read, Text.dropWhile_eq_self (isBlank_head_yearText _ _)] at read
  obtain ⟨p, number, same⟩ := bind_eq_ok_iff.1 read
  obtain rfl := eq_of_yearNumber_yearText ends number
  cases same
  exact more

theorem readItems_of_date {w : Fields} (fit : w.Fit)
    (h : readItems f (datePattern ++ items) (w.dateText ++ rest) = .ok f') :
    readItems { f with year := w.year, month := w.month, day := w.day } items rest = .ok f' := by
  simp only [Fields.dateText, datePattern, List.append_assoc, List.cons_append, List.nil_append] at h
  have behindYear := readItems_of_year (isDigit_head_mark rfl _) h
  rw [readItems_mark] at behindYear
  have behindMonth := readItems_of_pair (.inl rfl) fit.month behindYear
  rw [readItems_mark] at behindMonth
  exact readItems_of_pair (.inr (.inl rfl)) fit.day behindMonth

theorem readItems_of_minute {w : Fields} (fit : w.Fit)
    (h : readItems f (minutePattern ++ items) (w.minuteText ++ rest) = .ok f') :
    readItems { f with hour := w.hour, minute := w.minute } items rest = .ok f' := by
  simp only [Fields.minuteText, minutePattern, List.append_assoc, List.cons_append,
    List.nil_append] at h
  have behindHour := readItems_of_pair (.inr (.inr (.inl rfl))) fit.hour h
  rw [readItems_mark] at behindHour
  exact readItems_of_pair (.inr (.inr (.inr (.inl rfl)))) fit.minute behindHour

/-- The digits of a fraction that is written exactly give back all of it. -/
theorem read_fractionText (f : Fields) {w : Fields} {places : Nat} (small : w.nano < 10 ^ 9)
    (positive : 0 < places) (atMost : places ≤ 9) (exact : 10 ^ (9 - places) ∣ w.nano) :
    Item.fraction.read f (w.fractionText places) = .ok ({ f with nano := w.nano }, []) := by
  have fits : w.nano / 10 ^ (9 - places) < 10 ^ places := by
    apply Nat.div_lt_of_lt_mul
    rwa [← Nat.pow_add, Nat.sub_add_cancel atMost]
  rw [Fields.fractionText, Item.read, nanos_digits positive atMost fits, Nat.div_mul_cancel exact]
  rfl

end

/-! The whole text. -/

namespace Fields

/-- What may stand behind the minute. -/
inductive TailWrittenAs (f : Fields) : List Char → Prop where
  | minute (second : f.second = 0) (nano : f.nano = 0) : TailWrittenAs f []
  | second (nano : f.nano = 0) : TailWrittenAs f (':' :: Day.digits 2 f.second)
  | fraction {places : Nat} (positive : 0 < places) (atMost : places ≤ 9)
    (exact : 10 ^ (9 - places) ∣ f.nano) :
    TailWrittenAs f (':' :: (Day.digits 2 f.second ++ f.fractionText places))

/-- The date alone, or the date with a time behind a mark. -/
theorem WrittenAs.cases_time {f : Fields} {s : List Char} (written : f.WrittenAs s) :
    (s = f.dateText ∧ f.hour = 0 ∧ f.minute = 0 ∧ f.second = 0 ∧ f.nano = 0) ∨
      ∃ mark tail, s = f.dateText ++ mark :: (f.minuteText ++ tail) ∧ (mark = ' ' ∨ mark = 'T') ∧
        f.TailWrittenAs tail := by
  cases written with
  | date hour minute second nano => exact .inl ⟨rfl, hour, minute, second, nano⟩
  | minute second nano => exact .inr ⟨' ', [], by simp, .inl rfl, .minute second nano⟩
  | second mark between nano => exact .inr ⟨mark, _, rfl, between, .second nano⟩
  | fraction mark places between positive atMost exact =>
    exact .inr ⟨mark, _, by simp [secondText], between, .fraction positive atMost exact⟩

end Fields

/-- The parts of a pattern for a time that may stand behind the minute. -/
def tailPatterns : List (List Item) := [[], [.mark ':', .second], [.mark ':', .second, .fraction]]

/-- A pattern that reads a time to its end has read all that is written of it. -/
theorem eq_of_readItems_time {w f' : Fields} (fit : w.Fit) {tail : List Item} (known : tail ∈ tailPatterns)
    {rest : List Char} (written : w.TailWrittenAs rest)
    (h : readItems { year := w.year, month := w.month, day := w.day } (minutePattern ++ tail)
      (w.minuteText ++ rest) = .ok f') : f' = w := by
  have behind := readItems_of_minute fit h
  have nothing {f : Fields} {items : List Item} (read : readItems f (.mark ':' :: items) [] = .ok f') :
      False := by cases read
  obtain ⟨year, month, day, hour, minute, second, nano⟩ := w
  simp only [tailPatterns, List.mem_cons, List.not_mem_nil, or_false] at known
  cases written with
  | minute noSecond noNano =>
    cases noSecond
    cases noNano
    rcases known with rfl | rfl | rfl
    · exact (readItems_nil_eq_ok behind).2
    · exact (nothing behind).elim
    · exact (nothing behind).elim
  | second noNano =>
    cases noNano
    rw [← List.append_nil (Day.digits 2 _)] at behind
    rcases known with rfl | rfl | rfl
    · cases (readItems_nil_eq_ok behind).1
    · rw [readItems_mark] at behind
      exact (readItems_nil_eq_ok (readItems_of_pair (.inr (.inr (.inr (.inr rfl)))) fit.second behind)).2
    · rw [readItems_mark] at behind
      have atEnd := readItems_of_pair (.inr (.inr (.inr (.inr rfl)))) fit.second behind
      rw [readItems_cons (show Item.fraction.read _ [] = .ok (_, []) from rfl)] at atEnd
      exact (readItems_nil_eq_ok atEnd).2
  | fraction positive atMost exact =>
    rcases known with rfl | rfl | rfl
    · cases (readItems_nil_eq_ok behind).1
    · rw [readItems_mark] at behind
      cases (readItems_nil_eq_ok (readItems_of_pair (.inr (.inr (.inr (.inr rfl)))) fit.second behind)).1
    · rw [readItems_mark] at behind
      have atPoint := readItems_of_pair (.inr (.inr (.inr (.inr rfl)))) fit.second behind
      rw [readItems_cons (read_fractionText _ fit.nano positive atMost exact)] at atPoint
      exact (readItems_nil_eq_ok atPoint).2

end Outlay.Calendar
