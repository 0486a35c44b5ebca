import Mathlib.Data.List.Lex
import Outlay.Proofs.Calendar.Text

/-!
# The order of written days

Texts of days are compared by their years, as written, and then by month and day. Years of four digits
are written in their order, and one with a minus in front of them. Longer years have a plus, which comes
before every digit, and among years with a minus the later one comes first.
-/

namespace Outlay.Calendar

/-! Written numbers. -/

theorem toNat_of_isDigit {c : Char} (digit : c.isDigit = true) : 48 ≤ c.toNat ∧ c.toNat ≤ 57 := by
  simpa [Char.isDigit, UInt32.le_iff_toNat_le] using digit

theorem mark_lt_of_isDigit {c : Char} (digit : c.isDigit = true) : '-' < c := by
  have := toNat_of_isDigit digit
  exact Nat.lt_of_lt_of_le (by decide : 45 < 48) this.1

/-- What stands in front of a mark is compared first, if no character there comes before the mark. -/
theorem append_mark_lt_iff {s s' : List Char} (above : ∀ c ∈ s, '-' < c) (above' : ∀ c ∈ s', '-' < c)
    (rest rest' : List Char) :
    s ++ '-' :: rest < s' ++ '-' :: rest' ↔ s < s' ∨ s = s' ∧ rest < rest' := by
  induction s generalizing s' with
  | nil =>
    cases s' with
    | nil => simp
    | cons c' s' =>
      have first := (List.forall_mem_cons.1 above').1
      simp [List.cons_lt_cons_iff, first]
  | cons c s ih =>
    have first := (List.forall_mem_cons.1 above).1
    cases s' with
    | nil =>
      have apart : c ≠ '-' := fun same => absurd (same ▸ first) (by decide)
      simp [List.cons_lt_cons_iff, Char.lt_asymm first, apart]
    | cons c' s' =>
      have tails := ih (List.forall_mem_cons.1 above).2 (List.forall_mem_cons.1 above').2
      simp only [List.cons_append, List.cons_lt_cons_iff, tails, List.cons.injEq]
      tauto

/-- Numbers with equally many digits are ordered like their texts. -/
theorem ofDigitChars_lt_iff {s s' : List Char} (length : s.length = s'.length)
    (digits : ∀ c ∈ s, c.isDigit = true) (digits' : ∀ c ∈ s', c.isDigit = true) (n n' : Nat) :
    Nat.ofDigitChars 10 s n < Nat.ofDigitChars 10 s' n' ↔ n < n' ∨ n = n' ∧ s < s' := by
  induction s generalizing s' n n' with
  | nil =>
    obtain rfl := List.length_eq_zero_iff.1 length.symm
    simp
  | cons c s ih =>
    obtain ⟨c', s', rfl⟩ := List.exists_cons_of_length_eq_add_one length.symm
    obtain ⟨digit, digits⟩ := List.forall_mem_cons.1 digits
    obtain ⟨digit', digits'⟩ := List.forall_mem_cons.1 digits'
    have bounds := toNat_of_isDigit digit
    have bounds' := toNat_of_isDigit digit'
    have order : c < c' ↔ c.toNat < c'.toNat := Iff.rfl
    have same : c = c' ↔ c.toNat = c'.toNat := Char.toNat_inj.symm
    rw [Nat.ofDigitChars_cons, Nat.ofDigitChars_cons, ih (Nat.succ.inj length) digits digits',
      List.cons_lt_cons_iff, order, same]
    have zero : '0'.toNat = 48 := rfl
    by_cases tails : s < s'
    · simp only [tails, and_true]
      omega
    · simp only [tails, and_false, or_false]
      omega

theorem digits_lt_iff {width m n : Nat} (positive : 0 < width) (small : m < 10 ^ width)
    (small' : n < 10 ^ width) : Day.digits width m < Day.digits width n ↔ m < n := by
  have length := (length_digits positive small).trans (length_digits positive small').symm
  have order := ofDigitChars_lt_iff length (isDigit_of_mem_digits width m) (isDigit_of_mem_digits width n) 0 0
  rw [ofDigitChars_digits, ofDigitChars_digits] at order
  simpa using order.symm

theorem digits_inj {width m n : Nat} : Day.digits width m = Day.digits width n ↔ m = n := by
  refine ⟨fun same => ?_, congrArg _⟩
  rw [← ofDigitChars_digits width m, same, ofDigitChars_digits]

/-! Written years. -/

theorem yearText_injective {year year' : Int} (isYear : IsYear year) (isYear' : IsYear year')
    (same : Day.yearText year = Day.yearText year') : year = year' := by
  have ends : ∀ c ∈ ([] : List Char).head?, c.isDigit = false := by rintro c ⟨⟩
  have read := yearNumber_yearText isYear ends
  rw [same, yearNumber_yearText isYear' ends] at read
  exact (congrArg Prod.fst (Except.ok.inj read)).symm

/-- Only the first character of a year can be a sign. -/
theorem exists_yearText_eq_cons (year : Int) : ∃ c digits, Day.yearText year = c :: digits ∧
    ∀ c ∈ digits, c.isDigit = true := by
  unfold Day.yearText
  split
  · obtain ⟨c, digits, written⟩ := List.exists_cons_of_ne_nil (digits_ne_nil 4 year.toNat)
    have all := isDigit_of_mem_digits 4 year.toNat
    rw [written] at all
    exact ⟨c, digits, written, fun c member => all c (List.mem_cons_of_mem _ member)⟩
  · exact ⟨_, _, rfl, isDigit_of_mem_digits 4 _⟩

theorem yearText_append_mark_lt_iff (year year' : Int) (rest rest' : List Char) :
    Day.yearText year ++ '-' :: rest < Day.yearText year' ++ '-' :: rest' ↔
      Day.yearText year < Day.yearText year' ∨ Day.yearText year = Day.yearText year' ∧ rest < rest' := by
  obtain ⟨c, digits, written, all⟩ := exists_yearText_eq_cons year
  obtain ⟨c', digits', written', all'⟩ := exists_yearText_eq_cons year'
  have tails := append_mark_lt_iff (fun c member => mark_lt_of_isDigit (all c member))
    (fun c member => mark_lt_of_isDigit (all' c member)) rest rest'
  simp only [written, written', List.cons_append, List.cons_lt_cons_iff, tails, List.cons.injEq]
  tauto

/-- Years of four digits, and one before them, are written in their order. -/
theorem yearText_lt_of_lt {year year' : Int} (before : year < year') (plain : 0 ≤ year')
    (short : year' ≤ 9999) : Day.yearText year < Day.yearText year' := by
  have range : 0 ≤ year' ∧ year' ≤ 9999 := ⟨plain, short⟩
  by_cases negative : year < 0
  · obtain ⟨c, digits, written⟩ := List.exists_cons_of_ne_nil (digits_ne_nil 4 year'.toNat)
    have digit : c.isDigit = true := isDigit_of_mem_digits 4 year'.toNat c (written ▸ List.mem_cons_self)
    have signed : ¬(0 ≤ year ∧ year ≤ 9999) := by omega
    rw [Day.yearText, if_neg signed, if_pos negative, Day.yearText, if_pos range, written]
    exact List.cons_lt_cons_iff.2 (.inl (mark_lt_of_isDigit digit))
  · have range' : 0 ≤ year ∧ year ≤ 9999 := by omega
    rw [Day.yearText, if_pos range', Day.yearText, if_pos range, digits_lt_iff (by decide)] <;> omega

/-! Written days. -/

namespace Day

theorem text_injective {d e : Day} (same : d.text = e.text) : d = e := by
  have read := readSpacedDay_text d
  rw [same, readSpacedDay_text] at read
  exact (Except.ok.inj read).symm

theorem lt_iff {d e : Day} : d < e ↔ d.year < e.year ∨ d.year = e.year ∧
    (d.month < e.month ∨ d.month = e.month ∧ d.day < e.day) := by
  obtain ⟨year, month, day, -, -, high, -, last⟩ := d
  obtain ⟨year', month', day', -, -, high', -, last'⟩ := e
  have short := daysIn_le year month
  have short' := daysIn_le year' month'
  change rank _ < rank _ ↔ _
  simp only [rank]
  omega

theorem text_lt_iff {d e : Day} : d.text < e.text ↔ yearText d.year < yearText e.year ∨
    d.year = e.year ∧ (d.month < e.month ∨ d.month = e.month ∧ d.day < e.day) := by
  obtain ⟨isYear, -, high, -, last⟩ := d.isDate
  obtain ⟨isYear', -, high', -, last'⟩ := e.isDate
  have short := daysIn_le d.year d.month
  have short' := daysIn_le e.year e.month
  have years : yearText d.year = yearText e.year ↔ d.year = e.year :=
    ⟨yearText_injective isYear isYear', congrArg _⟩
  have above (n : Nat) : ∀ c ∈ digits 2 n, '-' < c :=
    fun c member => mark_lt_of_isDigit (isDigit_of_mem_digits 2 n c member)
  have months : digits 2 d.month < digits 2 e.month ↔ d.month < e.month :=
    digits_lt_iff (by decide) (by omega) (by omega)
  have days : digits 2 d.day < digits 2 e.day ↔ d.day < e.day :=
    digits_lt_iff (by decide) (by omega) (by omega)
  simp only [text, monthText, List.append_assoc, List.cons_append, yearText_append_mark_lt_iff,
    append_mark_lt_iff (above _) (above _), years, months, days, digits_inj]

theorem text_lt_iff_of_year_eq {d e : Day} (same : d.year = e.year) : d.text < e.text ↔ d < e := by
  have irrefl : ¬yearText e.year < yearText e.year := List.lt_irrefl _
  simp only [text_lt_iff, lt_iff, same, irrefl, Int.lt_irrefl]

theorem text_lt_iff_of_year_ne {d e : Day} (apart : d.year ≠ e.year) :
    d.text < e.text ↔ yearText d.year < yearText e.year := by
  simp only [text_lt_iff, apart, false_and, or_false]

end Day

end Outlay.Calendar
