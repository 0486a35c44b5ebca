import Outlay.Command.Run
import Outlay.Proofs.Binary64.Minus
import Outlay.Proofs.Binary64.Value
import Outlay.Proofs.Decimal.Digits
import Outlay.Proofs.Query.Narrowing
import Outlay.Report
import Outlay.Spending.Comparison

/-!
# Totals with a minus

Of amounts without a minus only the empty selection has a total with one: it is the `-0.0` that the sum
starts from, and is printed so.
-/

namespace Outlay

open Binary64

namespace Amount

/-- The sign is set, be it that of a number or that of what is no number. -/
def HasMinus (a : Amount) : Prop := a.negative = true ∨ Binary64.HasMinus a.value

instance (a : Amount) : Decidable a.HasMinus := inferInstanceAs (Decidable (_ ∨ _))

theorem eq_of_value_of_negative {a b : Amount} (value : a.value = b.value)
    (negative : a.negative = b.negative) : a = b := by
  obtain ⟨_, _, _⟩ := a
  obtain ⟨_, _, _⟩ := b
  subst value negative
  rfl

/-- Whose sign is no number's in a sum. -/
theorem negative_add (a b : Amount) : (a + b).negative =
    ((if a.value.isNaN = true then a.negative else if b.value.isNaN = true then b.negative else true) &&
      (a.value + b.value).isNaN) := rfl

theorem negZero_add (a : Amount) : ofFloat (-0.0) + a = a := by
  have zero : (-0.0 : Float).isNaN = false := by decide +kernel
  have value : -0.0 + a.value = a.value := Binary64.negZero_add a.value
  apply eq_of_value_of_negative value
  rw [negative_add, value_ofFloat, value, zero, if_neg Bool.false_ne_true]
  cases number : a.value.isNaN with
  | true => rw [if_pos rfl, Bool.and_true]
  | false => rw [negative_eq_false number, Bool.and_false]

theorem not_hasMinus_add {a b : Amount} (ha : ¬a.HasMinus) (hb : ¬b.HasMinus) : ¬(a + b).HasMinus := by
  obtain ⟨aSign, aPlus⟩ := not_or.1 ha
  obtain ⟨bSign, bPlus⟩ := not_or.1 hb
  refine not_or.2 ⟨?_, Binary64.not_hasMinus_add aPlus bPlus⟩
  rw [negative_add, Bool.not_eq_true]
  cases aNumber : a.value.isNaN with
  | true => rw [if_pos rfl, Bool.eq_false_of_not_eq_true aSign, Bool.false_and]
  | false =>
    rw [if_neg Bool.false_ne_true]
    cases bNumber : b.value.isNaN with
    | true => rw [if_pos rfl, Bool.eq_false_of_not_eq_true bSign, Bool.false_and]
    | false =>
      have unsigned := zero_le_add (zero_le_of_not_hasMinus aPlus aNumber)
        (zero_le_of_not_hasMinus bPlus bNumber)
      rw [(isNaN_eq_false_of_le unsigned).2, Bool.and_false]

end Amount

/-! Texts. -/

namespace Decimal

theorem minus_notMem_fixedFinite (places m : ℕ) (e : ℤ) : '-' ∉ fixedFinite places m e := by
  have digits (k n : ℕ) : ∀ c ∈ zeros k ++ Nat.toDigits 10 n, c.isDigit = true := by
    refine List.forall_mem_append.2 ⟨fun c member => ?_, isDigit_of_mem_toDigits⟩
    rw [List.eq_of_mem_replicate member]
    rfl
  have notDigit : ¬Char.isDigit '-' = true := by decide
  unfold fixedFinite
  simp only
  intro member
  rcases List.mem_append.1 member with front | back
  · exact notDigit (digits _ _ _ (List.mem_of_mem_take front))
  · rcases List.mem_cons.1 back with point | back
    · exact absurd point (by decide)
    · exact notDigit (digits _ _ _ (List.mem_of_mem_drop back))

/-- The minus of a number is written. -/
theorem minus_mem_fixed_iff (places : ℕ) (x : Float) :
    '-' ∈ (fixed places false x).toList ↔ Binary64.HasMinus x := by
  unfold fixed
  simp only
  split
  next eq =>
    rw [eq_nan_of_parts eq]
    exact iff_of_false (by decide) (by decide +kernel)
  next negative eq =>
    rw [← hasMinus_iff (negative_of_infinite eq)]
    cases negative <;> simp
  next negative m e eq =>
    rw [← hasMinus_iff (negative_of_parts eq)]
    cases negative <;> simp [minus_notMem_fixedFinite]

end Decimal

namespace Spending

open Command

/-- The sum of the amounts themselves, which keeps the sign of what is no number. -/
def sum (records : List Transaction) : Amount :=
  records.foldl (fun sum t => sum + t.amount) (.ofFloat (-0.0))

theorem value_sum (records : List Transaction) : (sum records).value = total records := by
  have step (start : Amount) : (records.foldl (fun sum t => sum + t.amount) start).value =
      records.foldl (fun sum t => sum + t.amount.value) start.value := by
    induction records generalizing start with
    | nil => rfl
    | cons t records ih => exact ih (start + t.amount)
  exact step _

theorem not_hasMinus_foldl {records : List Transaction} (plain : ∀ t ∈ records, ¬t.amount.HasMinus)
    {start : Amount} (plus : ¬start.HasMinus) :
    ¬(records.foldl (fun sum t => sum + t.amount) start).HasMinus := by
  induction records generalizing start with
  | nil => exact plus
  | cons t records ih =>
    rw [List.forall_mem_cons] at plain
    exact ih plain.2 (Amount.not_hasMinus_add plus plain.1)

theorem hasMinus_sum_iff {records : List Transaction} (plain : ∀ t ∈ records, ¬t.amount.HasMinus) :
    (sum records).HasMinus ↔ records = [] := by
  cases records with
  | nil => exact iff_of_true (by decide +kernel) rfl
  | cons t records =>
    rw [List.forall_mem_cons] at plain
    refine iff_of_false ?_ (List.cons_ne_nil t records)
    change ¬(records.foldl (fun sum t => sum + t.amount) (.ofFloat (-0.0) + t.amount)).HasMinus
    rw [Amount.negZero_add]
    exact not_hasMinus_foldl plain.2 plain.1

/-- What the total of a selection tells by its sign: whether anything is selected at all. -/
structure IsSignedTotal (found : List Transaction) (x : Float) : Prop where
  value : (sum found).value = x
  sign : (sum found).HasMinus ↔ found = []
  bit : HasMinus x ↔ found = []
  text : '-' ∈ (Report.money x).toList ↔ found = []
  empty : found = [] → x = -0.0 ∧ Report.money x = "-0.00"

theorem isSignedTotal {found : List Transaction} (plain : ∀ t ∈ found, ¬t.amount.HasMinus) :
    IsSignedTotal found (total found) := by
  have sign := hasMinus_sum_iff plain
  have bit : HasMinus (total found) ↔ found = [] := by
    refine ⟨fun minus => sign.1 (.inr (value_sum found ▸ minus)), ?_⟩
    rintro rfl
    decide +kernel
  refine ⟨value_sum found, sign, bit, (Decimal.minus_mem_fixed_iff 2 _).trans bit, ?_⟩
  rintro rfl
  decide +kernel

theorem isSignedTotal_of_sublist {found records : List Transaction} (part : found.Sublist records)
    (plain : ∀ t ∈ records, ¬t.amount.HasMinus) : IsSignedTotal found (total found) :=
  isSignedTotal fun t member => plain t (part.subset member)

theorem exists_append_line (front : String) (parts : List String) (last : String) :
    ∃ before, front ++ Report.line (parts ++ [last]) = before ++ last ++ "\n" := by
  have joined : String.join (parts ++ [last]) = String.join parts ++ last := by
    unfold String.join
    rw [List.foldl_append]
    rfl
  refine ⟨front ++ String.join parts, ?_⟩
  rw [Report.line, joined]
  simp only [String.append_assoc]

/-- Both reports end with the total. -/
theorem exists_search_eq (count : Nat) (found : List Transaction) :
    ∃ before, Report.search count found = before ++ Report.money (total found) ++ "\n" :=
  exists_append_line _ ["\n", Report.countText found.length, " of ", Report.countText count,
    " transactions | total "] _

theorem exists_summary_eq (grouping : Grouping) (limit : Option Nat) (found : List Transaction) :
    ∃ before, Report.summary grouping limit found = before ++ Report.money (total found) ++ "\n" :=
  exists_append_line _ ["\nTotal: "] _

/-- Of amounts without a minus every selection that is not empty has a total without one, and shows none.
The total of the empty selection has a minus: it is negative zero, also in reports and comparisons. -/
theorem totals_have_minus_iff_empty {records : List Transaction}
    (plain : ∀ t ∈ records, ¬t.amount.HasMinus) :
    (∀ steps, IsSignedTotal (Narrowing.run steps records) (total (Narrowing.run steps records))) ∧
      (∀ source query, let found := select source query records
        IsSignedTotal found (total found) ∧
          (∀ count, ∃ before, Report.search count found = before ++ Report.money (total found) ++ "\n") ∧
          ∀ grouping limit, ∃ before,
            Report.summary grouping limit found = before ++ Report.money (total found) ++ "\n") ∧
      ∀ current previous category, let c := compare current previous category records
        IsSignedTotal ((current.filter category).apply records) c.current.total ∧
          IsSignedTotal ((previous.filter category).apply records) c.previous.total := by
  refine ⟨fun steps => isSignedTotal_of_sublist (Narrowing.run_sublist steps records) plain,
    fun source query => ⟨?_, fun count => exists_search_eq count _,
      fun grouping limit => exists_summary_eq grouping limit _⟩,
    fun current previous category => ⟨?_, ?_⟩⟩
  · exact isSignedTotal_of_sublist
      (Narrowing.run_sublist [.prefilter source.filter, .search query] records) plain
  · exact isSignedTotal_of_sublist List.filter_sublist plain
  · exact isSignedTotal_of_sublist List.filter_sublist plain

/-- A free cup is found, a tea is not, and nothing is spent before the day of the cup. -/
theorem totals_have_minus_iff_empty_coffee :
    let day : Calendar.Day := ⟨2026, 2, 18, by decide⟩
    let dayBefore : Calendar.Day := ⟨2026, 2, 17, by decide⟩
    let records : List Transaction := [⟨1, "Coffee", .ofFloat 0.0, "Dining", day, .midnight⟩]
    let c := compare ⟨day, day⟩ ⟨dayBefore, dayBefore⟩ (some "Dining") records
    (∀ t ∈ records, ¬t.amount.HasMinus) ∧
      Narrowing.run [.search "coffee"] records = records ∧ IsSignedTotal records (total records) ∧
      Narrowing.run [.search "tea"] records = [] ∧ IsSignedTotal [] (total []) ∧
      ¬HasMinus c.current.total ∧ c.previous.total = -0.0 := by
  intro day dayBefore records c
  have plain : ∀ t ∈ records, ¬t.amount.HasMinus := by decide +kernel
  have coffee : Narrowing.run [.search "coffee"] records = records := by decide +kernel
  have tea : Narrowing.run [.search "tea"] records = [] := by decide +kernel
  obtain ⟨steps, -, periods⟩ := totals_have_minus_iff_empty plain
  have found := steps [.search "coffee"]
  have missed := steps [.search "tea"]
  rw [coffee] at found
  rw [tea] at missed
  obtain ⟨current, previous⟩ := periods ⟨day, day⟩ ⟨dayBefore, dayBefore⟩ (some "Dining")
  refine ⟨plain, coffee, found, tea, missed, ?_, (previous.empty (by decide +kernel)).1⟩
  rw [current.bit]
  decide +kernel

/-- A search without a match prints a total of minus zero, and so does a comparison of empty periods. -/
theorem total_of_noMatch_hasMinus :
    let day : Calendar.Day := ⟨2026, 2, 18, by decide⟩
    let records : List Transaction := [⟨1, "Coffee", .ofFloat 4.5, "Dining", day, .midnight⟩]
    let found := Narrowing.run [.search "tea"] records
    (∀ t ∈ records, ¬t.amount.HasMinus) ∧ HasMinus (total found) ∧
      Report.search 1 found = "\n0 of 1 transactions | total -0.00\n" ∧
      HasMinus (compare ⟨day, day⟩ ⟨day, day⟩ none []).current.total := by
  decide +kernel

end Spending

end Outlay
