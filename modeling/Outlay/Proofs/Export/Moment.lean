import Outlay.Export.Moment
import Outlay.Proofs.Calendar.Written

/-!
# Points in time as exports write them

Every layout gives back the point in time that is written in it, and a text in one of the layouts whose
fields make up no day or no time is refused. That an earlier pattern may fit a text that a later one
is meant for does no harm: whichever fits has read the fields that are written.
-/

namespace Outlay.Export

open Calendar

theorem fields_of_toTimestamp {f : Fields} {t : Timestamp} (h : f.toTimestamp = .ok t) :
    t.fields = f := by
  obtain ⟨day, isDay, h⟩ := bind_eq_ok_iff.1 h
  unfold Fields.toDay Day.ofDate? at isDay
  unfold Time.of? at h
  split at isDay
  next found =>
    split at found
    next date =>
      cases found
      cases isDay
      split at h
      next found =>
        split at found
        next time =>
          cases found
          cases h
          rfl
        next => cases found
      next => cases h
    next => cases found
  next => cases isDay

theorem readPattern?_eq_some_iff {s : List Char} {pattern : List Item} {t : Timestamp} :
    readPattern? s pattern = some t ↔ readItems {} pattern s = .ok t.fields := by
  constructor
  · intro h
    obtain ⟨f, read, moment⟩ := bind_eq_ok_iff.1 (eq_ok_of_toOption h)
    rw [fields_of_toTimestamp moment]
    exact read
  · intro read
    rw [readPattern?, read]
    exact congrArg Except.toOption t.toTimestamp_fields

theorem exists_of_mem_momentPatterns {pattern : List Item} (h : pattern ∈ momentPatterns) :
    ∃ separator tail, pattern = datePattern ++ separator :: (minutePattern ++ tail) ∧
      (separator = .blanks ∨ separator = .mark 'T') ∧ tail ∈ tailPatterns := by
  simp only [momentPatterns, List.mem_cons, List.not_mem_nil, or_false] at h
  rcases h with rfl | rfl | rfl | rfl | rfl
  · exact ⟨.blanks, _, rfl, .inl rfl, by decide⟩
  · exact ⟨.blanks, [.mark ':', .second, .fraction], rfl, .inl rfl, by decide⟩
  · exact ⟨.mark 'T', _, rfl, .inr rfl, by decide⟩
  · exact ⟨.mark 'T', [.mark ':', .second, .fraction], rfl, .inr rfl, by decide⟩
  · exact ⟨.blanks, [], rfl, .inl rfl, by decide⟩

theorem read_blank (f : Fields) (n : Nat) (rest : List Char) :
    Item.blanks.read f (' ' :: (Day.digits 2 n ++ rest)) = .ok (f, Day.digits 2 n ++ rest) :=
  congrArg (fun s => Except.ok (f, s)) (Text.dropWhile_eq_self (isBlank_head_digits 2 n rest))

/-- The hour is read behind the mark that the pattern has in its place, or not at all. -/
theorem readItems_of_separator {separator : Item} {mark : Char}
    (known : separator = .blanks ∨ separator = .mark 'T') (between : mark = ' ' ∨ mark = 'T')
    {f f' : Fields} {items : List Item} {n : Nat} {rest : List Char}
    (h : readItems f (separator :: .hour :: items) (mark :: (Day.digits 2 n ++ rest)) = .ok f') :
    readItems f (.hour :: items) (Day.digits 2 n ++ rest) = .ok f' := by
  rcases known with rfl | rfl <;> rcases between with rfl | rfl
  · rwa [readItems_cons (read_blank f n rest)] at h
  · obtain ⟨e, failed⟩ := readItems_blanks_error f items (Day.digits 2 n ++ rest)
    rw [failed] at h
    cases h
  · cases h
  · rwa [readItems_mark] at h

section

variable {w : Fields} {s : List Char} (fit : w.Fit) (written : w.WrittenAs s)

include fit written

theorem fields_of_readPattern? {pattern : List Item} (known : pattern ∈ momentPatterns) {t : Timestamp}
    (read : readPattern? s pattern = some t) : t.fields = w := by
  rw [readPattern?_eq_some_iff] at read
  obtain ⟨separator, tail, rfl, known, tailKnown⟩ := exists_of_mem_momentPatterns known
  rcases written.cases_time with ⟨rfl, -⟩ | ⟨mark, rest, rfl, between, tailWritten⟩
  · -- Behind a date alone every pattern misses the hour.
    rw [← List.append_nil w.dateText] at read
    have atEnd := readItems_of_date fit read
    rcases known with rfl | rfl <;> cases atEnd
  · have behind := readItems_of_date fit read
    simp only [minutePattern, Fields.minuteText, List.cons_append, List.nil_append,
      List.append_assoc] at behind
    have time := readItems_of_separator known between behind
    apply eq_of_readItems_time fit tailKnown tailWritten
    simpa [minutePattern, Fields.minuteText] using time

theorem fields_of_readMidnight? {t : Timestamp} (read : readMidnight? s = some t) : t.fields = w := by
  obtain ⟨day, readDay, rfl⟩ := Option.map_eq_some_iff.1 read
  obtain ⟨f, fields, isDay⟩ := bind_eq_ok_iff.1 (eq_ok_of_toOption readDay)
  have date : datePattern = datePattern ++ [] := (List.append_nil _).symm
  rw [date] at fields
  rcases written.cases_time with ⟨rfl, hour, minute, second, nano⟩ | ⟨mark, rest, rfl, -⟩
  · rw [← List.append_nil w.dateText] at fields
    obtain ⟨-, rfl⟩ := readItems_nil_eq_ok (readItems_of_date fit fields)
    have moment : Fields.toTimestamp { year := w.year, month := w.month, day := w.day } =
        .ok ⟨day, Time.midnight⟩ := bind_eq_ok_iff.2 ⟨day, isDay, rfl⟩
    rw [fields_of_toTimestamp moment]
    obtain ⟨⟩ := w
    simp_all
  · cases (readItems_nil_eq_ok (readItems_of_date fit fields)).1

/-- Whichever pattern fits has read the fields that are written. -/
theorem fields_of_readMomentChars? {t : Timestamp} (read : readMomentChars? s = some t) :
    t.fields = w := by
  rcases Option.or_eq_some_iff.1 read with found | ⟨-, midnight⟩
  · obtain ⟨pattern, known, fits⟩ := List.exists_of_findSome?_eq_some found
    exact fields_of_readPattern? fit written known fits
  · exact fields_of_readMidnight? fit written midnight

end

/-! Points in time are read. -/

theorem fit_fields (t : Timestamp) : t.fields.Fit := by
  obtain ⟨-, -, month, -, day⟩ := t.day.isDate
  have days := day.trans (daysIn_le t.day.year t.day.month)
  have hour := t.time.hour_lt
  have minute := t.time.minute_lt
  have second := t.time.second_le
  constructor <;> simp only [Timestamp.fields]
  · omega
  · omega
  · omega
  · omega
  · omega
  · exact t.time.nano_lt

theorem isMoment_fields (t : Timestamp) : t.fields.IsMoment :=
  ⟨t.day.isDate, t.time.hour_lt, t.time.minute_lt, t.time.second_le⟩

theorem fields_injective {t t' : Timestamp} (h : t.fields = t'.fields) : t = t' := by
  have same := t.toTimestamp_fields
  rw [h, t'.toTimestamp_fields] at same
  exact (Except.ok.inj same).symm

section

variable (t : Timestamp)

/-- The separator of a pattern that stands for the mark in front of a time. -/
def separatorOf (mark : Char) : Item := if mark = 'T' then .mark 'T' else .blanks

theorem readItems_toMinute {mark : Char} (between : mark = ' ' ∨ mark = 'T') (tail : List Item)
    (rest : List Char) :
    readItems {} (datePattern ++ separatorOf mark :: (minutePattern ++ tail))
        (t.fields.dateText ++ mark :: (t.fields.minuteText ++ rest)) =
      readItems { t.fields with second := 0, nano := 0 } tail rest := by
  have hour (f : Fields) (items : List Item) (rest : List Char) :
      readItems f (separatorOf mark :: .hour :: items) (mark :: (Day.digits 2 t.time.hour ++ rest)) =
        readItems { f with hour := t.time.hour } items rest := by
    rcases between with rfl | rfl
    · exact (readItems_cons (read_blank f _ rest)).trans (readItems_cons (read_hour f t.time rest))
    · exact (readItems_mark f _ 'T' _).trans (readItems_cons (read_hour f t.time rest))
  refine (readItems_date {} _ _ t.day).trans ?_
  simp only [minutePattern, Fields.minuteText, List.cons_append, List.nil_append, List.append_assoc]
  exact (hour _ _ _).trans ((readItems_mark _ _ _ _).trans (readItems_cons (read_minute _ t.time rest)))

theorem readItems_toSecond (items : List Item) (rest : List Char) :
    readItems { t.fields with second := 0, nano := 0 } (.mark ':' :: .second :: items)
        (':' :: (Day.digits 2 t.fields.second ++ rest)) =
      readItems { t.fields with nano := 0 } items rest :=
  (readItems_mark _ _ _ _).trans (readItems_cons (read_second _ t.time rest))

variable {t}

theorem readPattern?_of_tail {mark : Char} (between : mark = ' ' ∨ mark = 'T') (tail : List Item)
    (rest : List Char)
    (fits : readItems { t.fields with second := 0, nano := 0 } tail rest = .ok t.fields) :
    readPattern? (t.fields.dateText ++ mark :: (t.fields.minuteText ++ rest))
      (datePattern ++ separatorOf mark :: (minutePattern ++ tail)) = some t :=
  readPattern?_eq_some_iff.2 ((readItems_toMinute t between tail rest).trans fits)

theorem mem_momentPatterns {mark : Char} (between : mark = ' ' ∨ mark = 'T') {tail : List Item}
    (known : tail = [] ∨ tail = [.fraction]) :
    datePattern ++ separatorOf mark :: (minutePattern ++ (.mark ':' :: .second :: tail)) ∈
      momentPatterns := by
  rcases between with rfl | rfl <;> rcases known with rfl | rfl <;> decide

theorem readMidnight?_dateText (midnight : t.time = Time.midnight) :
    readMidnight? t.fields.dateText = some t := by
  have fields := readItems_date {} [] [] t.day
  rw [List.append_nil, List.append_nil] at fields
  have day : readDay t.fields.dateText = .ok t.day :=
    bind_eq_ok_iff.2 ⟨_, fields, by simp only [Fields.toDay, Day.ofDate?_self]⟩
  rw [readMidnight?, day]
  exact congrArg some (congrArg (Timestamp.mk t.day) midnight.symm)

/-- For each layout there is a pattern that fits. -/
theorem exists_of_writtenAs {s : List Char} (written : t.fields.WrittenAs s) :
    (∃ pattern ∈ momentPatterns, readPattern? s pattern = some t) ∨ readMidnight? s = some t := by
  cases written with
  | date hour minute second nano =>
    right
    apply readMidnight?_dateText
    obtain ⟨day, time⟩ := t
    obtain ⟨⟩ := time
    cases hour
    cases minute
    cases second
    cases nano
    rfl
  | minute noSecond noNano =>
    left
    have atEnd : readItems { t.fields with second := 0, nano := 0 } [] [] = .ok t.fields := by
      refine congrArg Except.ok ?_
      generalize t.fields = f at noSecond noNano
      obtain ⟨⟩ := f
      simp_all
    have read := readPattern?_of_tail (.inl rfl) [] [] atEnd
    rw [List.append_nil t.fields.minuteText] at read
    exact ⟨_, by decide, read⟩
  | second mark between noNano =>
    left
    have atEnd : readItems { t.fields with second := 0, nano := 0 } [.mark ':', .second]
        (':' :: Day.digits 2 t.fields.second) = .ok t.fields := by
      have read := readItems_toSecond t [] []
      rw [List.append_nil] at read
      refine read.trans (congrArg Except.ok ?_)
      generalize t.fields = f at noNano
      obtain ⟨⟩ := f
      simp_all
    exact ⟨_, mem_momentPatterns between (.inl rfl), readPattern?_of_tail between _ _ atEnd⟩
  | fraction mark places between positive atMost exact =>
    left
    have atEnd := readItems_toSecond t [.fraction] (t.fields.fractionText places)
    rw [readItems_cons (read_fractionText _ t.time.nano_lt positive atMost exact)] at atEnd
    have read := readPattern?_of_tail between _ _ atEnd
    refine ⟨_, mem_momentPatterns between (.inr rfl), ?_⟩
    rw [Fields.secondText, List.append_assoc]
    exact read

theorem readMomentChars?_of_writtenAs {s : List Char} (written : t.fields.WrittenAs s) :
    readMomentChars? s = some t := by
  have some : (readMomentChars? s).isSome = true := by
    rw [readMomentChars?, Option.isSome_or, Bool.or_eq_true, List.findSome?_isSome_iff]
    rcases exists_of_writtenAs written with ⟨pattern, known, fits⟩ | midnight
    · exact .inl ⟨pattern, known, fits ▸ rfl⟩
    · exact .inr (midnight ▸ rfl)
  obtain ⟨t', read⟩ := Option.isSome_iff_exists.1 some
  rw [read, fields_injective (fields_of_readMomentChars? (fit_fields t) written read)]

end

/-! Blanks around the text. -/

theorem isTrimmed_of_writtenAs {f : Fields} {s : List Char} (written : f.WrittenAs s) :
    Text.IsTrimmed s := by
  have ends : ∃ front width n, s = front ++ Day.digits width n := by
    cases written with
    | date => exact ⟨_, _, _, (List.append_cons ..).trans rfl⟩
    | minute => exact ⟨f.dateText ++ ' ' :: (Day.digits 2 f.hour ++ [':']), 2, f.minute, by
        simp [Fields.minuteText]⟩
    | second mark => exact ⟨f.dateText ++ mark :: (f.minuteText ++ [':']), 2, f.second, by
        simp [Fields.secondText]⟩
    | fraction mark places => exact ⟨f.dateText ++ mark :: (f.secondText ++ ['.']), places, _, by
        simp [Fields.fractionText]; rfl⟩
  have starts : ∃ rest, s = Day.yearText f.year ++ rest := by
    cases written <;> exact ⟨_, by simp only [Fields.dateText, List.append_assoc]; rfl⟩
  constructor
  · obtain ⟨rest, rfl⟩ := starts
    exact isBlank_head_yearText f.year rest
  · obtain ⟨front, width, n, rfl⟩ := ends
    intro c last
    rw [List.getLast?_append, List.getLast?_eq_some_getLast (digits_ne_nil width n), Option.some_or,
      ← List.getLast?_eq_some_getLast] at last
    exact isBlank_of_mem_digits width n c (List.mem_of_getLast? last)

theorem readMoment?_blanks {f : Fields} {s : List Char} (written : f.WrittenAs s)
    {before after : List Char} (blank : ∀ c ∈ before ++ after, Text.isBlank c = true) :
    readMoment? (String.ofList (before ++ s ++ after)) = readMomentChars? s := by
  rw [List.forall_mem_append] at blank
  rw [readMoment?, String.toList_ofList, Text.trim_append_right blank.2, Text.trim_append_left blank.1,
    (isTrimmed_of_writtenAs written).trim_eq]

/-- What is written in one of the layouts, with any blanks around it, is read as the point in time that
it is, and refused if it is none. -/
theorem readMoment?_layouts :
    (∀ (t : Timestamp) s, t.fields.WrittenAs s →
      ∀ before after, (∀ c ∈ before ++ after, Text.isBlank c = true) →
        readMoment? (String.ofList (before ++ s ++ after)) = some t) ∧
    ∀ (f : Fields) s, f.Fit → f.WrittenAs s → ¬f.IsMoment →
      ∀ before after, (∀ c ∈ before ++ after, Text.isBlank c = true) →
        readMoment? (String.ofList (before ++ s ++ after)) = none := by
  constructor
  · intro t s written before after blank
    rw [readMoment?_blanks written blank, readMomentChars?_of_writtenAs written]
  · intro f s fit written unreal before after blank
    rw [readMoment?_blanks written blank, Option.eq_none_iff_forall_ne_some]
    intro t read
    obtain rfl := fields_of_readMomentChars? fit written read
    exact unreal (isMoment_fields t)

/-- Half a leap second of a year with five digits, and a day that a common year does not have. -/
theorem readMoment?_layouts_leapSecond :
    let t : Timestamp := ⟨⟨12016, 12, 31, by decide⟩, ⟨23, 59, 60, 500000000, by decide, by decide,
      by decide, by decide⟩⟩
    let s := "+12016-12-31T23:59:60.50".toList
    let f : Fields := { year := 2025, month := 2, day := 29, hour := 9, minute := 30 }
    let s' := "2025-02-29 09:30".toList
    (t.fields.WrittenAs s ∧ readMoment? (String.ofList ([' '] ++ s ++ ['\t'])) = some t) ∧
      f.Fit ∧ f.WrittenAs s' ∧ ¬f.IsMoment ∧ readMoment? (String.ofList ([] ++ s' ++ ['\n'])) = none := by
  intro t s f s'
  have written : t.fields.WrittenAs s := by
    have text : t.fields.dateText ++ 'T' :: (t.fields.secondText ++ t.fields.fractionText 2) = s := by
      decide +kernel
    exact text ▸ .fraction 'T' 2 (.inr rfl) (by decide) (by decide) (by decide)
  have written' : f.WrittenAs s' := by
    have text : f.dateText ++ ' ' :: f.minuteText = s' := by decide +kernel
    exact text ▸ .minute rfl rfl
  have fit : f.Fit := by constructor <;> decide
  have unreal : ¬f.IsMoment := fun moment => absurd moment.isDate (by decide)
  have blank : ∀ c ∈ [' '] ++ ['\t'], Text.isBlank c = true := List.all_eq_true.1 (by decide)
  have blank' : ∀ c ∈ [] ++ ['\n'], Text.isBlank c = true := List.all_eq_true.1 (by decide)
  exact ⟨⟨written, readMoment?_layouts.1 t s written [' '] ['\t'] blank⟩, fit, written', unreal,
    readMoment?_layouts.2 f s' fit written' unreal [] ['\n'] blank'⟩

end Outlay.Export
