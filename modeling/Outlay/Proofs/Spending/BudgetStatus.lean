import Outlay.Proofs.Binary64.Rising
import Outlay.Proofs.Spending.Monthly

/-!
# Budget lines that agree with themselves

The status of a line is taken from the exact order of its amounts and from a share that is not yet
rounded to tenths. As everything between the two rises with what is spent, and the bounds 80 and 100 are
tenths themselves, the rounded share stays on the side of them that the status says.
-/

namespace Outlay.Spending

open Binary64 Calendar

/-- From on track to over budget. -/
def BudgetStatus.severity : BudgetStatus → ℕ
  | onTrack => 0
  | warning => 1
  | overBudget => 2

/-- The figures of a line tell its status. -/
structure BudgetLine.IsConsistent (line : BudgetLine) : Prop where
  overBudget_iff : line.status = .overBudget ↔ line.spent > line.budget
  remaining_iff : line.remaining < 0.0 ↔ line.spent > line.budget
  overBudget : line.status = .overBudget → 100.0 ≤ line.percentUsed
  warning : line.status = .warning → 80.0 ≤ line.percentUsed ∧ line.percentUsed ≤ 100.0
  onTrack : line.status = .onTrack → line.percentUsed ≤ 80.0

/-! What rises with the spending. -/

theorem rises_toTenths : Rises toTenths := by
  have ten : (0.0 : Float) < 10.0 ∧ (10.0 : Float).isFinite = true := by decide +kernel
  exact (rises_div ten.2 ten.1).comp (rises_roundHalfAway.comp (rises_mul ten.2 ten.1))

section

variable {budget : Float} (finite : budget.isFinite = true) (pos : 0.0 < budget)

include finite pos

theorem rises_percentUsed : Rises (percentUsed · budget) := by
  have hundred : (0.0 : Float) < 100.0 ∧ (100.0 : Float).isFinite = true := by decide +kernel
  have eq : (percentUsed · budget) = fun spent => spent / budget * 100.0 :=
    funext fun spent => if_pos pos
  rw [eq]
  exact (rises_mul hundred.2 hundred.1).comp (rises_div finite pos)

theorem percentUsed_self : percentUsed budget budget = 100.0 := by
  rw [percentUsed, if_pos pos, div_self_eq_one finite pos]
  decide +kernel

theorem isPlus_of_pos : IsPlus budget :=
  ⟨not_hasMinus_of_pos finite pos, isNaN_eq_false_of_isFinite finite⟩

end

theorem toTenths_bounds : toTenths 80.0 = 80.0 ∧ toTenths 100.0 = 100.0 := by decide +kernel

theorem isPlus_spentIn {records : List Transaction} (unsigned : ∀ t ∈ records, 0.0 ≤ t.amount.value)
    (month : Day) (category : String) : IsPlus (spentIn month category records) := by
  rw [spentIn_eq_foldl_add]
  apply IsPlus.foldl_add _ (by decide +kernel)
  intro x member
  obtain ⟨t, listed, rfl⟩ := List.mem_map.1 member
  exact unsigned t (List.mem_of_mem_filter listed)

theorem exists_of_mem_budgetLines {records : List Transaction}
    (unsigned : ∀ t ∈ records, 0.0 ≤ t.amount.value) {month : Day} {budgets : Budgets}
    {line : BudgetLine} (listed : line ∈ budgetLines month budgets records) :
    ∃ category budget spent, line = .of category budget spent ∧ IsPlus spent := by
  rw [budgetLines_eq_map_spentIn] at listed
  obtain ⟨e, -, rfl⟩ := List.mem_map.1 listed
  exact ⟨e.1, e.2, _, rfl, isPlus_spentIn unsigned month e.1⟩

/-! The status. -/

namespace BudgetStatus

variable {spent budget percent : Float}

theorem of_eq_overBudget_iff : of spent budget percent = .overBudget ↔ budget < spent := by
  unfold of
  split
  next above => exact iff_of_true rfl above
  next within => split <;> exact iff_of_false (by decide) within

theorem of_eq_warning_iff : of spent budget percent = .warning ↔ ¬budget < spent ∧ 80.0 < percent := by
  unfold of
  split
  next above => exact iff_of_false (by decide) fun h => h.1 above
  next within =>
    split
    next flagged => exact iff_of_true rfl ⟨within, flagged⟩
    next calm => exact iff_of_false (by decide) fun h => calm h.2

theorem of_eq_onTrack_iff : of spent budget percent = .onTrack ↔ ¬budget < spent ∧ ¬80.0 < percent := by
  unfold of
  split
  next above => exact iff_of_false (by decide) fun h => h.1 above
  next within =>
    split
    next flagged => exact iff_of_false (by decide) fun h => h.2 flagged
    next calm => exact iff_of_true rfl ⟨within, calm⟩

theorem severity_of (spent budget percent : Float) :
    (of spent budget percent).severity = if budget < spent then 2 else if 80.0 < percent then 1 else 0 := by
  unfold of
  split
  next => rfl
  next =>
    rw [warningPercent]
    split <;> rfl

end BudgetStatus

section

variable {budget spent : Float} (finite : budget.isFinite = true) (pos : 0.0 < budget)
  (plus : IsPlus spent)

include finite pos plus

theorem le_toTenths_percentUsed (le : budget ≤ spent) : 100.0 ≤ toTenths (percentUsed spent budget) := by
  have share := rises_toTenths.comp (rises_percentUsed finite pos)
  have ordered := share.mono (isPlus_of_pos finite pos) plus le
  rwa [percentUsed_self finite pos, toTenths_bounds.2] at ordered

theorem toTenths_percentUsed_le (within : ¬budget < spent) :
    toTenths (percentUsed spent budget) ≤ 100.0 := by
  have share := rises_toTenths.comp (rises_percentUsed finite pos)
  have budgetPlus := isPlus_of_pos finite pos
  rw [not_lt_iff_le budgetPlus.number plus.number] at within
  have ordered := share.mono plus budgetPlus within
  rwa [percentUsed_self finite pos, toTenths_bounds.2] at ordered

theorem isConsistent_of (category : String) (spentFinite : spent.isFinite = true) :
    (BudgetLine.of category budget spent).IsConsistent := by
  have percentPlus := (rises_percentUsed finite pos).isPlus plus
  have eighty : IsPlus 80.0 := by decide +kernel
  refine ⟨BudgetStatus.of_eq_overBudget_iff, sub_lt_zero_iff finite spentFinite, fun status => ?_,
    fun status => ?_, fun status => ?_⟩
  · have above := BudgetStatus.of_eq_overBudget_iff.1 status
    exact le_toTenths_percentUsed finite pos plus (Binary64.le_of_lt above)
  · obtain ⟨within, flagged⟩ := BudgetStatus.of_eq_warning_iff.1 status
    refine ⟨?_, toTenths_percentUsed_le finite pos plus within⟩
    have ordered := rises_toTenths.mono eighty percentPlus (Binary64.le_of_lt flagged)
    rwa [toTenths_bounds.1] at ordered
  · have calm := (BudgetStatus.of_eq_onTrack_iff.1 status).2
    rw [not_lt_iff_le eighty.number percentPlus.number] at calm
    have ordered := rises_toTenths.mono percentPlus eighty calm
    rwa [toTenths_bounds.1] at ordered

theorem severity_le {spent' : Float} (plus' : IsPlus spent') (le : spent ≤ spent') :
    (BudgetStatus.of spent budget (percentUsed spent budget)).severity ≤
      (BudgetStatus.of spent' budget (percentUsed spent' budget)).severity := by
  have percent := (rises_percentUsed finite pos).mono plus plus' le
  rw [BudgetStatus.severity_of, BudgetStatus.severity_of]
  by_cases above : budget < spent
  · rw [if_pos above, if_pos (Binary64.lt_of_lt_of_le above le)]
  · rw [if_neg above]
    by_cases flagged : 80.0 < percentUsed spent budget
    · rw [if_pos flagged, if_pos (Binary64.lt_of_lt_of_le flagged percent)]
      split <;> decide
    · rw [if_neg flagged]
      exact Nat.zero_le _

end

/-- The figures of a line and its status do not contradict each other, and more spending under the same
budget neither lowers the share nor betters the status. -/
theorem budgetLines_isConsistent {records : List Transaction}
    (unsigned : ∀ t ∈ records, 0.0 ≤ t.amount.value) {month : Day} {budgets : Budgets}
    {line : BudgetLine} (listed : line ∈ budgetLines month budgets records)
    (budgetFinite : line.budget.isFinite = true) (budgetPos : 0.0 < line.budget)
    (spentFinite : line.spent.isFinite = true) :
    line.IsConsistent ∧
      ∀ records' : List Transaction, (∀ t ∈ records', 0.0 ≤ t.amount.value) →
        ∀ month' budgets', ∀ line' ∈ budgetLines month' budgets' records',
          line'.budget = line.budget → line.spent ≤ line'.spent →
            line.percentUsed ≤ line'.percentUsed ∧ line.status.severity ≤ line'.status.severity := by
  obtain ⟨category, budget, spent, rfl, plus⟩ := exists_of_mem_budgetLines unsigned listed
  refine ⟨isConsistent_of budgetFinite budgetPos plus category spentFinite, ?_⟩
  intro records' unsigned' month' budgets' line' listed' same le
  obtain ⟨category', budget', spent', rfl, plus'⟩ := exists_of_mem_budgetLines unsigned' listed'
  obtain rfl : budget' = budget := same
  exact ⟨(rises_toTenths.comp (rises_percentUsed budgetFinite budgetPos)).mono plus plus' le,
    severity_le budgetFinite budgetPos plus plus' le⟩

/-- The least budget there is, used up by a record of its size; with a coffee the share overflows. -/
theorem budgetLines_isConsistent_leastBudget :
    let day : Day := ⟨2026, 2, 18, by decide⟩
    let records : List Transaction := [⟨1, "Interest", .ofFloat 5e-324, "Dining", day, .midnight⟩]
    let more : List Transaction := ⟨2, "Coffee", .ofFloat 4.5, "Dining", day, .midnight⟩ :: records
    let budgets := Budgets.empty.insert "Dining" 5e-324
    let line := BudgetLine.of "Dining" 5e-324 5e-324
    let line' := BudgetLine.of "Dining" 5e-324 4.5
    ((∀ t ∈ records, 0.0 ≤ t.amount.value) ∧ line ∈ budgetLines day budgets records ∧
        line.budget.isFinite = true ∧ 0.0 < line.budget ∧ line.spent.isFinite = true) ∧
      line.status = .warning ∧ line.percentUsed = 100.0 ∧ line.IsConsistent ∧
      line' ∈ budgetLines day budgets more ∧ line'.percentUsed = 1.0 / 0.0 ∧
      line.percentUsed ≤ line'.percentUsed ∧ line.status.severity ≤ line'.status.severity := by
  intro day records more budgets line line'
  have unsigned : ∀ t ∈ records, 0.0 ≤ t.amount.value := by decide +kernel
  have listed : line ∈ budgetLines day budgets records := by decide +kernel
  have figures : line.budget.isFinite = true ∧ 0.0 < line.budget ∧ line.spent.isFinite = true := by
    decide +kernel
  have unsigned' : ∀ t ∈ more, 0.0 ≤ t.amount.value := by decide +kernel
  have listed' : line' ∈ budgetLines day budgets more := by decide +kernel
  have same : line'.budget = line.budget := by decide +kernel
  have risen : line.spent ≤ line'.spent := by decide +kernel
  obtain ⟨consistent, compared⟩ :=
    budgetLines_isConsistent unsigned listed figures.1 figures.2.1 figures.2.2
  exact ⟨⟨unsigned, listed, figures⟩, by decide +kernel, by decide +kernel, consistent, listed',
    by decide +kernel, compared more unsigned' day budgets line' listed' same risen⟩

end Outlay.Spending
