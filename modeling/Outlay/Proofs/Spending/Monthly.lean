import Outlay.Proofs.Binary64.Addition
import Outlay.Proofs.Calendar.Month
import Outlay.Proofs.Spending.Groups
import Outlay.Proofs.Spending.Tally
import Outlay.Spending.Comparison

/-!
# The spending of a month

A budget line, a comparison and a summary count the same records of a month in one category. They
start their sums from different zeros, so that they agree as numbers and not in the sign of a zero.
-/

namespace Outlay.Spending

open Calendar Binary64

/-- The whole month of a day. -/
def Period.ofMonth (month : Day) : Period := ⟨month.firstOfMonth, month.lastOfMonth⟩

/-- The total of the row with a key, zero if there is no such row. -/
def totalOf (key : String) (rows : List Row) : Float :=
  ((rows.find? (·.key == key)).map (·.total.value)).getD 0.0

def Period.prefilter (p : Period) : Prefilter := { first := some p.first, last := some p.last }

theorem total_eq_foldl_add (records : List Transaction) :
    total records = (records.map (·.amount.value)).foldl (· + ·) (-0.0) := by
  rw [List.foldl_map]
  rfl

theorem spentIn_eq_foldl_add (month : Day) (category : String) (records : List Transaction) :
    spentIn month category records =
      ((records.filter fun t => t.day.sameMonth month && t.category == category).map
        (·.amount.value)).foldl (· + ·) 0.0 := by
  rw [List.foldl_map]
  rfl

theorem value_ofGroup? (key : String) (group : List Transaction) :
    ((Row.ofGroup? key group).map (·.total.value)).getD 0.0 =
      if group = [] then 0.0 else total group := by
  cases group with
  | nil => rfl
  | cons t rest =>
    rw [if_neg (List.cons_ne_nil t rest), total_eq_foldl_add, List.map_cons, foldl_add_negZero_cons]
    exact Row.value_total_foldl_add rest _

theorem zero_le_total {group : List Transaction} (unsigned : ∀ t ∈ group, 0.0 ≤ t.amount.value) :
    0.0 ≤ total group := by
  rw [total_eq_foldl_add]
  exact zero_le_foldl_add (by simpa using unsigned) (by decide +kernel)

/-- The rows of a summary without a limit are those of the grouping in another order. -/
theorem perm_summarize_category (records : List Transaction) :
    (summarize .category none records).Perm (groupBy (·.category) records) :=
  List.mergeSort_perm _ _

theorem nodup_keys_summarize_category (records : List Transaction) :
    ((summarize .category none records).map (·.key)).Nodup :=
  ((perm_summarize_category records).map _).nodup_iff.2 (nodup_keys_groupBy _ _)

theorem filter_key_cases {α : Type} {key : α → String} {l : List α} (distinct : (l.map key).Nodup)
    (c : String) : l.filter (key · == c) = [] ∨ ∃ a, l.filter (key · == c) = [a] := by
  have distinctHere := ((List.filter_sublist (p := (key · == c)) (l := l)).map key).nodup distinct
  have same : ∀ a ∈ l.filter (key · == c), key a = c := by
    intro a member
    simpa using List.of_mem_filter member
  rcases found : l.filter (key · == c) with _ | ⟨a, _ | ⟨b, rest⟩⟩
  · exact .inl rfl
  · exact .inr ⟨a, rfl⟩
  · simp only [found, List.forall_mem_cons] at same
    simp only [found, List.map_cons, List.nodup_cons, List.mem_cons, not_or] at distinctHere
    exact absurd (same.1.trans same.2.1.symm) distinctHere.1.1

theorem find?_key_of_perm {rows rows' : List Row} (perm : rows.Perm rows')
    (distinct : (rows.map (·.key)).Nodup) (key : String) :
    rows.find? (·.key == key) = rows'.find? (·.key == key) := by
  have permHere := perm.filter (·.key == key)
  rw [← List.head?_filter, ← List.head?_filter]
  rcases filter_key_cases distinct key with none | ⟨row, one⟩
  · rw [none] at permHere ⊢
    rw [List.nil_perm.1 permHere]
  · rw [one] at permHere ⊢
    rw [List.singleton_perm.1 permHere]

theorem apply_prefilter_month (month : Day) (records : List Transaction) :
    (Period.ofMonth month).prefilter.apply records = records.filter (·.day.sameMonth month) := by
  apply List.filter_congr
  intro t _
  rw [Bool.eq_iff_iff, Day.sameMonth_iff_between, Prefilter.accepts_iff]
  simp [Period.prefilter, Period.ofMonth]

theorem apply_filter_month (month : Day) {category : String} (named : category ≠ "All")
    (records : List Transaction) :
    ((Period.ofMonth month).filter (some category)).apply records =
      records.filter fun t => t.day.sameMonth month && t.category == category := by
  apply List.filter_congr
  intro t _
  rw [Bool.eq_iff_iff, Bool.and_eq_true, Day.sameMonth_iff_between, Prefilter.accepts_iff]
  simp [Period.filter, Period.ofMonth, Prefilter.anyCategory, named, and_assoc]

theorem Budgets.nodup_categories (budgets : Budgets) : (budgets.entries.map (·.1)).Nodup := by
  rw [List.Nodup, List.pairwise_map]
  exact budgets.sorted.imp fun less => String.ne_of_lt less

theorem filter_budgetLines {month : Day} {budgets : Budgets} {records : List Transaction}
    {category : String} {budget : Float} (listed : (category, budget) ∈ budgets.entries) :
    (budgetLines month budgets records).filter (·.category == category) =
      [.of category budget (spentIn month category records)] := by
  have entry : budgets.entries.filter (·.1 == category) = [(category, budget)] := by
    have member : (category, budget) ∈ budgets.entries.filter (·.1 == category) := by
      simpa using listed
    rcases filter_key_cases budgets.nodup_categories category with none | ⟨e, one⟩
    · simp [none] at member
    · rw [one] at member ⊢
      rw [List.mem_singleton.1 member]
  rw [budgetLines_eq_map_spentIn, List.filter_map]
  change (budgets.entries.filter (·.1 == category)).map _ = _
  rw [entry]
  rfl

theorem totalOf_summarize_month (month : Day) (category : String) (records : List Transaction) :
    totalOf category (summarize .category none ((Period.ofMonth month).prefilter.apply records)) =
      let group := records.filter fun t => t.day.sameMonth month && t.category == category
      if group = [] then 0.0 else total group := by
  have rows := perm_summarize_category ((Period.ofMonth month).prefilter.apply records)
  rw [totalOf, find?_key_of_perm rows (nodup_keys_summarize_category _), find?_groupBy,
    apply_prefilter_month, List.filter_filter, value_ofGroup?]
  simp only [Bool.and_comm]

/-- The line of a budget, a comparison of the month and the row of a summary of the month give one
number for what a category took. -/
theorem budgetLine_compare_summarize_agree (records : List Transaction)
    (unsigned : ∀ t ∈ records, 0.0 ≤ t.amount.value) (month : Day) (budgets : Budgets)
    {category : String} {budget : Float} (listed : (category, budget) ∈ budgets.entries)
    (named : category ≠ "All") (previous : Period) :
    ∃ line, (budgetLines month budgets records).filter (·.category == category) = [line] ∧
      let period := Period.ofMonth month
      let compared := (compare period previous (some category) records).current.total
      let rows := summarize .category none (period.prefilter.apply records)
      (rows.map (·.key)).Nodup ∧ (line.spent == compared) = true ∧
        (line.spent == totalOf category rows) = true ∧ (compared == totalOf category rows) = true := by
  refine ⟨_, filter_budgetLines listed, nodup_keys_summarize_category _, ?_⟩
  have compared : (compare (Period.ofMonth month) previous (some category) records).current.total =
      total (records.filter fun t => t.day.sameMonth month && t.category == category) :=
    congrArg total (apply_filter_month month named records)
  rw [compared, totalOf_summarize_month, BudgetLine.of, spentIn_eq_foldl_add]
  generalize members : (records.filter fun t => t.day.sameMonth month && t.category == category) = group
  have unsignedHere : ∀ t ∈ group, 0.0 ≤ t.amount.value := by
    intro t member
    rw [← members] at member
    exact unsigned t (List.mem_of_mem_filter member)
  have sums : (((group.map (·.amount.value)).foldl (· + ·) 0.0) == total group) = true := by
    rw [total_eq_foldl_add]
    exact foldl_add_zero_beq (by simpa using unsignedHere)
  refine ⟨sums, ?_⟩
  by_cases empty : group = []
  · subst empty
    have zeros : ((0.0 : Float) == 0.0) = true ∧ ((-0.0 : Float) == 0.0) = true := by decide +kernel
    exact zeros
  · simp only [empty, if_false]
    exact ⟨sums, beq_self_of_zero_le (zero_le_total unsignedHere)⟩

/-- The last second of a leap day counts, the first day of the next month does not. -/
theorem budgetLine_compare_summarize_leapDay :
    let leapDay : Day := ⟨2024, 2, 29, by decide⟩
    let nextDay : Day := ⟨2024, 3, 1, by decide⟩
    let lastSecond : Time := ⟨23, 59, 60, 5, by decide, by decide, by decide, by decide⟩
    let records : List Transaction :=
      [⟨1, "Cafe", .ofFloat (-0.0), "Dining", leapDay, .midnight⟩,
        ⟨2, "Bar", .ofFloat 12.5, "Dining", leapDay, lastSecond⟩,
        ⟨3, "Bar", .ofFloat 4.0, "Dining", nextDay, .midnight⟩]
    let budgets := Budgets.empty.insert "Dining" 200.0
    let period := Period.ofMonth leapDay
    let rows := summarize .category none (period.prefilter.apply records)
    (∀ t ∈ records, 0.0 ≤ t.amount.value) ∧ ("Dining", 200.0) ∈ budgets.entries ∧
      "Dining" ≠ "All" ∧ totalOf "Dining" rows = 12.5 ∧
      ∃ line, (budgetLines leapDay budgets records).filter (·.category == "Dining") = [line] ∧
        (line.spent == (compare period period (some "Dining") records).current.total) = true ∧
        (line.spent == totalOf "Dining" rows) = true := by
  intro leapDay nextDay lastSecond records budgets period rows
  have unsigned : ∀ t ∈ records, 0.0 ≤ t.amount.value := by decide +kernel
  have listed : ("Dining", 200.0) ∈ budgets.entries := List.mem_cons_self
  have named : "Dining" ≠ "All" := by decide
  refine ⟨unsigned, listed, named, by decide +kernel, ?_⟩
  obtain ⟨line, one, -, compared, summed, -⟩ :=
    budgetLine_compare_summarize_agree records unsigned leapDay budgets listed named period
  exact ⟨line, one, compared, summed⟩

end Outlay.Spending
