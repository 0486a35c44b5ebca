import Mathlib.Data.List.Induction
import Outlay.Spending.Budget

/-!
# What a category took

The records are gone through once for all categories. What a category gets from this is the sum of
its own records of the month, in their order.
-/

namespace Outlay.Spending

open Calendar

/-- What a category took in the month of the given day. -/
def spentIn (month : Day) (category : String) (records : List Transaction) : Float :=
  (records.filter fun t => t.day.sameMonth month && t.category == category).foldl
    (fun sum t => sum + t.amount.value) 0.0

namespace Budgets

theorem find?_insertEntry (key category : String) (amount : Float) (entries : List (String × Float)) :
    (insertEntry key amount entries).find? (·.1 == category) =
      if key = category then some (key, amount) else entries.find? (·.1 == category) := by
  induction entries with
  | nil => by_cases wanted : key = category <;> simp [insertEntry, wanted]
  | cons e rest ih =>
    unfold insertEntry
    split
    next => by_cases wanted : key = category <;> simp [wanted]
    next notLess =>
      split
      next greater =>
        by_cases here : e.1 = category
        · have other : key ≠ category := by
            rintro rfl
            exact String.ne_of_lt greater here
          simp [here, other]
        · simpa [here] using ih
      next notGreater =>
        have same : e.1 = key := String.le_antisymm notLess notGreater
        by_cases wanted : key = category <;> simp [same, wanted]

theorem amountOf_insert (b : Budgets) (key category : String) (amount : Float) :
    (b.insert key amount).amountOf category = if key = category then amount else b.amountOf category := by
  unfold amountOf insert
  rw [find?_insertEntry]
  split <;> rfl

theorem amountOf_add (b : Budgets) (key category : String) (amount : Float) :
    (b.add key amount).amountOf category =
      if key = category then b.amountOf category + amount else b.amountOf category := by
  rw [add, amountOf_insert]
  split
  next same => rw [same]
  next => rfl

end Budgets

theorem spentByCategory_append (month : Day) (records : List Transaction) (t : Transaction) :
    spentByCategory month (records ++ [t]) =
      if t.day.sameMonth month then (spentByCategory month records).add t.category t.amount.value
      else spentByCategory month records := by
  simp [spentByCategory, List.foldl_append]

theorem spentIn_append (month : Day) (category : String) (records : List Transaction)
    (t : Transaction) : spentIn month category (records ++ [t]) =
      if t.day.sameMonth month && t.category == category then
        spentIn month category records + t.amount.value
      else spentIn month category records := by
  unfold spentIn
  rw [List.filter_append]
  split
  next counted => simp [counted]
  next away => simp [away]

/-- The pass over all records leaves each category with the sum of its own ones. -/
theorem amountOf_spentByCategory (month : Day) (records : List Transaction) (category : String) :
    (spentByCategory month records).amountOf category = spentIn month category records := by
  induction records using List.reverseRecOn with
  | nil => rfl
  | append_singleton records t ih =>
    rw [spentByCategory_append, spentIn_append, ← ih]
    cases inMonth : t.day.sameMonth month with
    | false => simp
    | true => simp [Budgets.amountOf_add]

theorem budgetLines_eq_map_spentIn (month : Day) (budgets : Budgets) (records : List Transaction) :
    budgetLines month budgets records =
      budgets.entries.map fun e => .of e.1 e.2 (spentIn month e.1 records) := by
  apply List.map_congr_left
  intro e _
  exact congrArg (BudgetLine.of e.1 e.2) (amountOf_spentByCategory month records e.1)

end Outlay.Spending
