import Mathlib.Algebra.Group.Nat.Defs
import Outlay.Export.Moment
import Outlay.Proofs.Decimal.Digits

/-!
# Written points in time

The text of a point in time is read back by the pattern with a `T` that has a fraction just if there
is one, whatever the year and also in a leap second; no pattern before that one fits.
-/

namespace Outlay.Calendar

open Decimal
open Query (MaximalRun)

/-! Padded numbers. -/

theorem isDigit_of_mem_digits (width n : Nat) : ∀ c ∈ Day.digits width n, c.isDigit = true := by
  refine List.forall_mem_append.2 ⟨fun c member => ?_, isDigit_of_mem_toDigits⟩
  rw [List.eq_of_mem_replicate member]
  rfl

theorem digits_ne_nil (width n : Nat) : Day.digits width n ≠ [] :=
  List.append_ne_nil_of_right_ne_nil _ Nat.toDigits_ne_nil

theorem ofDigitChars_digits (width n : Nat) : Nat.ofDigitChars 10 (Day.digits width n) 0 = n := by
  rw [Day.digits, Nat.ofDigitChars_append, Nat.ofDigitChars_replicate_zero, Nat.mul_zero,
    Nat.ofDigitChars_ten_toDigits]

theorem length_digits {width n : Nat} (positive : 0 < width) (small : n < 10 ^ width) :
    (Day.digits width n).length = width := by
  have := (Nat.length_toDigits_le_iff (by decide) positive).2 small
  rw [Day.digits, List.length_append, List.length_replicate]
  omega

theorem isBlank_head_digits (width n : Nat) (rest : List Char) :
    ∀ c ∈ (Day.digits width n ++ rest).head?, Text.isBlank c = false := by
  have digits := isDigit_of_mem_digits width n
  obtain ⟨c, more, written⟩ := List.exists_cons_of_ne_nil (digits_ne_nil width n)
  rw [written] at digits ⊢
  rintro c' ⟨⟩
  exact Text.isBlank_eq_false_of_isDigit (digits c List.mem_cons_self)

theorem takeNumber_digits (width n : Nat) (rest : List Char) :
    takeNumber (Day.digits width n) (Day.digits width n ++ rest) = .ok (n, rest) := by
  rw [takeNumber, List.isEmpty_eq_false_iff.2 (digits_ne_nil width n), ofDigitChars_digits,
    List.drop_left]
  rfl

theorem takeWhile_digits (width n : Nat) :
    (Day.digits width n).takeWhile Char.isDigit = Day.digits width n :=
  List.takeWhile_eq_self_iff.2 (isDigit_of_mem_digits width n)

theorem number_digits {width n : Nat} (positive : 0 < width) (small : n < 10 ^ width)
    (rest : List Char) : number width (Day.digits width n ++ rest) = .ok (n, rest) := by
  have length := length_digits positive small
  rw [number, List.take_append_of_le_length (Nat.le_of_eq length.symm),
    List.take_of_length_le (Nat.le_of_eq length), takeWhile_digits, takeNumber_digits]

theorem longNumber_digits (width n : Nat) {rest : List Char}
    (ends : ∀ c ∈ rest.head?, c.isDigit = false) :
    longNumber (Day.digits width n ++ rest) = .ok (n, rest) := by
  have run : MaximalRun Char.isDigit (Day.digits width n) rest := ⟨isDigit_of_mem_digits width n, ends⟩
  rw [longNumber, run.takeWhile_eq, takeNumber_digits]

theorem smallNumber_digits {least most n : Nat} (bounds : least ≤ n ∧ n ≤ most) (small : n < 100)
    (rest : List Char) : smallNumber least most (Day.digits 2 n ++ rest) = .ok (n, rest) := by
  rw [smallNumber, Text.dropWhile_eq_self (isBlank_head_digits 2 n rest),
    number_digits (by decide) small]
  simp only [bind, Except.bind]
  rw [if_pos bounds]

theorem yearNumber_cons {c : Char} (digit : c.isDigit = true) (rest : List Char) :
    yearNumber (c :: rest) = (number 4 (c :: rest)).map fun (n, rest) => ((n : Int), rest) := by
  unfold yearNumber
  split
  next heq =>
    obtain ⟨rfl, -⟩ := List.cons.inj heq
    exact absurd digit (by decide)
  next heq =>
    obtain ⟨rfl, -⟩ := List.cons.inj heq
    exact absurd digit (by decide)
  next => cases number 4 (c :: rest) <;> rfl

theorem yearNumber_digits {n : Nat} (small : n < 10 ^ 4) (rest : List Char) :
    yearNumber (Day.digits 4 n ++ rest) = .ok ((n : Int), rest) := by
  have read := number_digits (by decide) small rest
  have digits := isDigit_of_mem_digits 4 n
  obtain ⟨c, more, written⟩ := List.exists_cons_of_ne_nil (digits_ne_nil 4 n)
  rw [written, List.cons_append] at read
  rw [written] at digits
  rw [written, List.cons_append, yearNumber_cons (digits c List.mem_cons_self), read]
  rfl

theorem yearNumber_signed {year : Int} (isYear : IsYear year) {rest : List Char}
    (ends : ∀ c ∈ rest.head?, c.isDigit = false) :
    yearNumber ((if year < 0 then '-' else '+') :: (Day.digits 4 year.natAbs ++ rest)) =
      .ok (year, rest) := by
  obtain ⟨first, last⟩ := isYear
  have read := longNumber_digits 4 year.natAbs ends
  by_cases negative : year < 0
  · have size : -(year.natAbs : Int) = year := by omega
    simp only [negative, if_true, yearNumber, read, bind, Except.bind, size]
    exact if_pos (by omega)
  · have size : (year.natAbs : Int) = year := by omega
    simp only [negative, if_false, yearNumber, read, bind, Except.bind, size]
    exact if_pos (by omega)

/-- A year whose number ends in front of this is read, with its sign if it has one. -/
theorem yearNumber_yearText {year : Int} (isYear : IsYear year) {rest : List Char}
    (ends : ∀ c ∈ rest.head?, c.isDigit = false) :
    yearNumber (Day.yearText year ++ rest) = .ok (year, rest) := by
  unfold Day.yearText
  split
  next plain =>
    rw [yearNumber_digits (by omega), Int.toNat_of_nonneg plain.1]
  next => exact yearNumber_signed isYear ends

theorem isBlank_head_yearText (year : Int) (rest : List Char) :
    ∀ c ∈ (Day.yearText year ++ rest).head?, Text.isBlank c = false := by
  unfold Day.yearText
  split
  · exact isBlank_head_digits 4 _ rest
  · rintro c ⟨⟩
    split <;> rfl

/-! Items. -/

theorem readItems_cons {item : Item} {f f' : Fields} {items : List Item} {s rest : List Char}
    (read : item.read f s = .ok (f', rest)) : readItems f (item :: items) s = readItems f' items rest := by
  rw [readItems, read]
  rfl

theorem readItems_mark (f : Fields) (items : List Item) (c : Char) (rest : List Char) :
    readItems f (.mark c :: items) (c :: rest) = readItems f items rest :=
  readItems_cons (if_pos rfl)

/-! One item of a written point in time. -/

section

variable (f : Fields) (d : Day) (t : Time) (rest : List Char)

theorem read_year {rest : List Char} (ends : ∀ c ∈ rest.head?, c.isDigit = false) :
    Item.year.read f (Day.yearText d.year ++ rest) = .ok ({ f with year := d.year }, rest) := by
  rw [Item.read, Text.dropWhile_eq_self (isBlank_head_yearText _ _),
    yearNumber_yearText d.isDate.1 ends]
  rfl

theorem read_month :
    Item.month.read f (Day.digits 2 d.month ++ rest) = .ok ({ f with month := d.month }, rest) := by
  obtain ⟨-, monthPos, monthLe, -, -⟩ := d.isDate
  rw [Item.read, smallNumber_digits ⟨monthPos, monthLe⟩ (by omega)]
  rfl

theorem read_day :
    Item.day.read f (Day.digits 2 d.day ++ rest) = .ok ({ f with day := d.day }, rest) := by
  obtain ⟨-, -, -, dayPos, dayLe⟩ := d.isDate
  have dayLe := dayLe.trans (daysIn_le d.year d.month)
  rw [Item.read, smallNumber_digits ⟨dayPos, dayLe⟩ (by omega)]
  rfl

theorem read_hour :
    Item.hour.read f (Day.digits 2 t.hour ++ rest) = .ok ({ f with hour := t.hour }, rest) := by
  have hourLt := t.hour_lt
  rw [Item.read, smallNumber_digits (by omega) (by omega)]
  rfl

theorem read_minute :
    Item.minute.read f (Day.digits 2 t.minute ++ rest) = .ok ({ f with minute := t.minute }, rest) := by
  have minuteLt := t.minute_lt
  rw [Item.read, smallNumber_digits (by omega) (by omega)]
  rfl

theorem read_second :
    Item.second.read f (Day.digits 2 t.second ++ rest) = .ok ({ f with second := t.second }, rest) := by
  have secondLe := t.second_le
  rw [Item.read, smallNumber_digits (by omega) (by omega)]
  rfl

end

/-- The parts of a written day, from left to right. -/
theorem text_append (d : Day) (rest : List Char) :
    d.text ++ rest = Day.yearText d.year ++ ('-' :: (Day.digits 2 d.month ++
      ('-' :: (Day.digits 2 d.day ++ rest)))) := by
  simp [Day.text, Day.monthText]

theorem time_append (t : Time) (rest : List Char) :
    t.text ++ rest = Day.digits 2 t.hour ++ (':' :: (Day.digits 2 t.minute ++
      (':' :: (Day.digits 2 t.second ++ (Time.fractionText t.nano ++ rest))))) := by
  simp [Time.text, Time.minuteText]

theorem isDigit_head_mark {c : Char} (mark : c.isDigit = false) (rest : List Char) :
    ∀ c' ∈ (c :: rest).head?, c'.isDigit = false := by
  rintro c' ⟨⟩
  exact mark

section

variable (f : Fields) (items : List Item) (rest : List Char)

theorem readItems_date (d : Day) :
    readItems f (datePattern ++ items) (d.text ++ rest) =
      readItems { f with year := d.year, month := d.month, day := d.day } items rest := by
  rw [text_append]
  simp only [datePattern, List.cons_append, List.nil_append]
  rw [readItems_cons (read_year f d (isDigit_head_mark rfl _)), readItems_mark,
    readItems_cons (read_month _ d _), readItems_mark, readItems_cons (read_day _ d _)]

theorem readItems_time (t : Time) :
    readItems f (secondPattern ++ items) (t.text ++ rest) =
      readItems { f with hour := t.hour, minute := t.minute, second := t.second } items
        (Time.fractionText t.nano ++ rest) := by
  rw [time_append]
  simp only [secondPattern, minutePattern, List.cons_append, List.nil_append]
  rw [readItems_cons (read_hour f t _), readItems_mark, readItems_cons (read_minute _ t _),
    readItems_mark, readItems_cons (read_second _ t _)]

/-- Where no blank stands, blanks are not asked for. -/
theorem readItems_blanks {rest : List Char} (front : ∀ c ∈ rest.head?, Text.isBlank c = false) :
    readItems f (.blanks :: items) rest = readItems f items rest :=
  readItems_cons (congrArg (fun s => Except.ok (f, s)) (Text.dropWhile_eq_self front))

end

theorem nanos_digits {width n : Nat} (positive : 0 < width) (atMost : width ≤ 9) (small : n < 10 ^ width) :
    nanos (Day.digits width n) = .ok (n * 10 ^ (9 - width), []) := by
  have length := length_digits positive small
  have read := takeNumber_digits width n []
  rw [List.append_nil] at read
  rw [nanos, List.take_of_length_le (by omega), takeWhile_digits, read]
  simp only [bind, Except.bind, length]
  rfl

/-- The digits after the point are as many as the number of nanoseconds needs. -/
theorem read_fraction (f : Fields) {nano : Nat} (fields : f.nano = 0) (small : nano < 1000000000) :
    Item.fraction.read f (Time.fractionText nano) = .ok ({ f with nano := nano }, []) := by
  unfold Time.fractionText
  split
  next zero =>
    subst zero
    obtain ⟨year, month, day, hour, minute, second, nano⟩ := f
    cases fields
    rfl
  next =>
    split
    next millis =>
      have unscaled : nano / 1000000 * 10 ^ (9 - 3) = nano := by omega
      rw [Item.read, nanos_digits (by decide) (by decide) (by omega), unscaled]
      rfl
    next =>
      split
      next micros =>
        have unscaled : nano / 1000 * 10 ^ (9 - 6) = nano := by omega
        rw [Item.read, nanos_digits (by decide) (by decide) (by omega), unscaled]
        rfl
      next =>
        rw [Item.read, nanos_digits (by decide) (by decide) (by omega)]
        simp [bind, Except.bind]

/-- A blank has to stand where the text has a `T`. -/
theorem readItems_blanks_error (f : Fields) (items : List Item) (rest : List Char) :
    ∃ e, readItems f (.blanks :: .hour :: items) ('T' :: rest) = .error e :=
  ⟨.unexpected, rfl⟩

theorem fractionText_ne_nil {nano : Nat} (h : nano ≠ 0) : Time.fractionText nano ≠ [] := by
  unfold Time.fractionText
  rw [if_neg h]
  split
  · exact List.cons_ne_nil _ _
  · split <;> exact List.cons_ne_nil _ _

/-- The fields of a point in time. -/
def Timestamp.fields (t : Timestamp) : Fields where
  year := t.day.year
  month := t.day.month
  day := t.day.day
  hour := t.time.hour
  minute := t.time.minute
  second := t.time.second
  nano := t.time.nano

theorem Timestamp.toTimestamp_fields (t : Timestamp) : t.fields.toTimestamp = .ok t := by
  have time : Time.of? t.time.hour t.time.minute t.time.second t.time.nano = some t.time :=
    dif_pos ⟨t.time.hour_lt, t.time.minute_lt, t.time.second_le, t.time.nano_lt⟩
  simp only [Fields.toTimestamp, Fields.toDay, fields, Day.ofDate?_self, bind, Except.bind, time]

theorem isBlank_head_mark {c : Char} (mark : Text.isBlank c = false) (rest : List Char) :
    ∀ c' ∈ (c :: rest).head?, Text.isBlank c' = false := by
  rintro c' ⟨⟩
  exact mark

/-- The pattern that allows blanks reads a day without them, too. -/
theorem readItems_spacedDate (f : Fields) (d : Day) (items : List Item) {rest : List Char}
    (front : ∀ c ∈ rest.head?, Text.isBlank c = false) :
    readItems f (spacedDate ++ items) (d.text ++ rest) =
      readItems { f with year := d.year, month := d.month, day := d.day } items rest := by
  rw [text_append]
  simp only [spacedDate, List.cons_append, List.nil_append]
  rw [readItems_cons (read_year f d (isDigit_head_mark rfl _)),
    readItems_blanks _ _ (isBlank_head_mark rfl _), readItems_mark,
    readItems_cons (read_month _ d _), readItems_blanks _ _ (isBlank_head_mark rfl _), readItems_mark,
    readItems_cons (read_day _ d _), readItems_blanks _ _ front]

theorem readSpacedDay_text (d : Day) : readSpacedDay d.text = .ok d := by
  have front : ∀ c ∈ ([] : List Char).head?, Text.isBlank c = false := by rintro c ⟨⟩
  have fields := readItems_spacedDate {} d [] front
  rw [List.append_nil, List.append_nil] at fields
  have day : Fields.toDay { year := d.year, month := d.month, day := d.day } = .ok d := by
    simp only [Fields.toDay, Day.ofDate?_self]
  rw [readSpacedDay]
  exact (congrArg (· >>= Fields.toDay) fields).trans day

theorem readSpacedTimestamp_text (t : Timestamp) : readSpacedTimestamp t.text = .ok t := by
  have fraction := read_fraction { t.fields with nano := 0 } rfl t.time.nano_lt
  have time := time_append t.time []
  rw [List.append_nil, List.append_nil] at time
  have fields : readItems {} (spacedDate ++ [.mark 'T', .hour, .blanks, .mark ':', .minute, .blanks,
      .mark ':', .second, .fraction, .blanks]) t.text = .ok t.fields := by
    rw [Timestamp.text, readItems_spacedDate _ _ _ (isBlank_head_mark rfl _), readItems_mark, time,
      readItems_cons (read_hour _ _ _), readItems_blanks _ _ (isBlank_head_mark rfl _), readItems_mark,
      readItems_cons (read_minute _ _ _), readItems_blanks _ _ (isBlank_head_mark rfl _), readItems_mark,
      readItems_cons (read_second _ _ _)]
    exact (readItems_cons fraction).trans rfl
  rw [readSpacedTimestamp]
  exact (congrArg (· >>= Fields.toTimestamp) fields).trans t.toTimestamp_fields

/-! No blanks. -/

theorem isBlank_of_mem_digits (width n : Nat) : ∀ c ∈ Day.digits width n, Text.isBlank c = false :=
  fun c member => Text.isBlank_eq_false_of_isDigit (isDigit_of_mem_digits width n c member)

theorem isBlank_of_mem_yearText (year : Int) : ∀ c ∈ Day.yearText year, Text.isBlank c = false := by
  have digits := isBlank_of_mem_digits 4 year.natAbs
  unfold Day.yearText
  split
  · exact isBlank_of_mem_digits 4 _
  · split <;> exact List.forall_mem_cons.2 ⟨rfl, digits⟩

theorem isBlank_of_mem_fractionText (nano : Nat) :
    ∀ c ∈ Time.fractionText nano, Text.isBlank c = false := by
  have behind (width n : Nat) : ∀ c ∈ '.' :: Day.digits width n, Text.isBlank c = false :=
    List.forall_mem_cons.2 ⟨rfl, isBlank_of_mem_digits width n⟩
  unfold Time.fractionText
  split
  · exact List.forall_mem_nil _
  · split
    · exact behind _ _
    · split <;> exact behind _ _

theorem isTrimmed_text (t : Timestamp) : Text.IsTrimmed t.text := by
  apply Text.isTrimmed_of_forall
  have pair := isBlank_of_mem_digits 2
  simp only [Timestamp.text, Day.text, Day.monthText, Time.text, Time.minuteText, List.forall_mem_append,
    List.forall_mem_cons]
  exact ⟨⟨⟨isBlank_of_mem_yearText _, rfl, pair _⟩, rfl, pair _⟩, rfl,
    ⟨⟨pair _, rfl, pair _⟩, rfl, pair _⟩, isBlank_of_mem_fractionText _⟩

end Outlay.Calendar

namespace Outlay.Export

open Calendar

variable (t : Timestamp)

theorem readPattern?_blanks (items : List Item) :
    readPattern? t.text (datePattern ++ .blanks :: .hour :: items) = none := by
  obtain ⟨e, failed⟩ := readItems_blanks_error
    { year := t.day.year, month := t.day.month, day := t.day.day } items t.time.text
  rw [readPattern?, Timestamp.text, readItems_date, failed]
  rfl

theorem readPattern?_whole (whole : t.time.nano = 0) :
    readPattern? t.text (datePattern ++ .mark 'T' :: secondPattern) = some t := by
  have time := readItems_time { year := t.day.year, month := t.day.month, day := t.day.day } [] [] t.time
  rw [List.append_nil, List.append_nil, List.append_nil, whole] at time
  have fields : readItems {} (datePattern ++ .mark 'T' :: secondPattern) t.text = .ok t.fields := by
    rw [Timestamp.text, readItems_date, readItems_mark, time, Timestamp.fields, whole]
    rfl
  rw [readPattern?, fields]
  exact congrArg Except.toOption t.toTimestamp_fields

theorem readPattern?_whole_eq_none (fraction : t.time.nano ≠ 0) :
    readPattern? t.text (datePattern ++ .mark 'T' :: secondPattern) = none := by
  have time := readItems_time { year := t.day.year, month := t.day.month, day := t.day.day } [] [] t.time
  rw [List.append_nil, List.append_nil, List.append_nil, readItems,
    List.isEmpty_eq_false_iff.2 (fractionText_ne_nil fraction)] at time
  rw [readPattern?, Timestamp.text, readItems_date, readItems_mark, time]
  rfl

theorem readPattern?_fraction :
    readPattern? t.text (datePattern ++ .mark 'T' :: secondPattern ++ [.fraction]) = some t := by
  have time := readItems_time { year := t.day.year, month := t.day.month, day := t.day.day }
    [.fraction] [] t.time
  have fraction := read_fraction { t.fields with nano := 0 } rfl t.time.nano_lt
  rw [List.append_nil, List.append_nil] at time
  have fields : readItems {} (datePattern ++ (.mark 'T' :: (secondPattern ++ [.fraction]))) t.text =
      .ok t.fields := by
    rw [Timestamp.text, readItems_date, readItems_mark, time]
    exact (readItems_cons fraction).trans rfl
  rw [readPattern?, List.append_assoc, List.cons_append, fields]
  exact congrArg Except.toOption t.toTimestamp_fields

/-- What is written of a point in time is read as that point. -/
theorem readMoment?_text : readMoment? (String.ofList t.text) = some t := by
  have blanks := readPattern?_blanks t
  rw [readMoment?, String.toList_ofList, (isTrimmed_text t).trim_eq, readMomentChars?, momentPatterns]
  have first : readPattern? t.text (datePattern ++ .blanks :: secondPattern) = none := blanks _
  have second : readPattern? t.text (datePattern ++ .blanks :: secondPattern ++ [.fraction]) = none := by
    rw [List.append_assoc]
    exact blanks _
  rw [List.findSome?_cons, first, List.findSome?_cons, second, List.findSome?_cons]
  by_cases whole : t.time.nano = 0
  · rw [readPattern?_whole t whole]
    rfl
  · rw [readPattern?_whole_eq_none t whole, List.findSome?_cons, readPattern?_fraction]
    rfl

end Outlay.Export
