import Mathlib.Logic.Relation
import Outlay.Proofs.Spending.Tally
import Outlay.Proofs.Text.ByteOrder
import Outlay.Spending.Comparison

/-!
# The records that a report reads

The sums of a report are rounded at each step, so they depend on the order of the records. But they
only read those that the report is about: others may come and go anywhere, and categories do not mix.
-/

namespace Outlay.Spending

open Calendar

/-- One record more or less, anywhere in the list, of those that are `aside`. -/
inductive Edit (aside : Transaction → Prop) : List Transaction → List Transaction → Prop
  | insert {t : Transaction} (before after : List Transaction) :
      aside t → Edit aside (before ++ after) (before ++ t :: after)
  | remove {t : Transaction} (before after : List Transaction) :
      aside t → Edit aside (before ++ t :: after) (before ++ after)

/-- The same records, those of each category in the same order. -/
structure Reordered (records records' : List Transaction) : Prop where
  perm : records.Perm records'
  kept : ∀ category, records.filter (·.category == category) = records'.filter (·.category == category)

/-- A step that the lines of budgets do not show. -/
inductive BudgetEdit (month : Day) (budgets : Budgets) :
    List Transaction → List Transaction → Prop
  | edit {records records' : List Transaction} :
      Edit (fun t => t.day.sameMonth month = false ∨ t.category ∉ budgets.entries.map (·.1))
        records records' → BudgetEdit month budgets records records'
  | reorder {records records' : List Transaction} :
      Reordered records records' → BudgetEdit month budgets records records'

def Period.Contains (p : Period) (day : Day) : Prop := p.first ≤ day ∧ day ≤ p.last

/-- A step that a comparison does not show. -/
def ComparisonEdit (current previous : Period) (category : Option String) :
    List Transaction → List Transaction → Prop :=
  Edit fun t => (¬current.Contains t.day ∧ ¬previous.Contains t.day) ∨
    ∃ wanted, category = some wanted ∧ wanted ≠ Prefilter.anyCategory ∧ t.category ≠ wanted

section Steps

variable {records records' : List Transaction}

/-- Who reads none of the records that are `aside` does not see an edit. -/
theorem Edit.filter_eq {aside : Transaction → Prop} {reads : Transaction → Bool}
    (unread : ∀ t, aside t → reads t = false) (edit : Edit aside records records') :
    records.filter reads = records'.filter reads := by
  cases edit with
  | insert before after away => simp [unread _ away]
  | remove before after away => simp [unread _ away]

theorem BudgetEdit.spentIn_eq {month : Day} {budgets : Budgets}
    (step : BudgetEdit month budgets records records') {category : String}
    (listed : category ∈ budgets.entries.map (·.1)) :
    spentIn month category records = spentIn month category records' := by
  unfold spentIn
  congr 1
  cases step with
  | edit edit =>
    apply edit.filter_eq
    rintro t (away | unlisted)
    · rw [away, Bool.false_and]
    · have other : t.category ≠ category := by
        rintro rfl
        exact unlisted listed
      rw [beq_false_of_ne other, Bool.and_false]
  | reorder reorder => rw [← List.filter_filter, ← List.filter_filter, reorder.kept category]

theorem BudgetEdit.budgetLines_eq {month : Day} {budgets : Budgets}
    (step : BudgetEdit month budgets records records') :
    budgetLines month budgets records = budgetLines month budgets records' := by
  rw [budgetLines_eq_map_spentIn, budgetLines_eq_map_spentIn]
  apply List.map_congr_left
  intro e member
  rw [step.spentIn_eq (List.mem_map_of_mem member)]

theorem Period.accepts_filter_iff (p : Period) (category : Option String) (t : Transaction) :
    (p.filter category).accepts t = true ↔ p.Contains t.day ∧
      ∀ wanted ∈ category, wanted = Prefilter.anyCategory ∨ t.category = wanted := by
  simp [Prefilter.accepts_iff, Period.filter, Contains, and_assoc]

theorem ComparisonEdit.compare_eq {current previous : Period} {category : Option String}
    (step : ComparisonEdit current previous category records records') :
    compare current previous category records = compare current previous category records' := by
  have spending (p : Period) (compared : p = current ∨ p = previous) :
      p.spending category records = p.spending category records' := by
    unfold Period.spending Prefilter.apply
    rw [Edit.filter_eq _ step]
    intro t away
    rw [Bool.eq_false_iff, Ne, Period.accepts_filter_iff]
    rintro ⟨inside, own⟩
    rcases away with ⟨notCurrent, notPrevious⟩ | ⟨wanted, asked, named, other⟩
    · rcases compared with rfl | rfl
      · exact notCurrent inside
      · exact notPrevious inside
    · exact (own wanted asked).elim named other
  unfold compare
  rw [spending current (.inl rfl), spending previous (.inr rfl)]

/-- What no step changes, no run of steps changes. -/
theorem eq_of_steps {β : Type} {step : List Transaction → List Transaction → Prop}
    {report : List Transaction → β} (same : ∀ l l', step l l' → report l = report l')
    (run : Relation.ReflTransGen step records records') : report records = report records' := by
  induction run with
  | refl => rfl
  | tail _ last ih => exact ih.trans (same _ _ last)

end Steps

/-! The lines of budgets. -/

theorem entries_budgetLines (month : Day) (budgets : Budgets) (records : List Transaction) :
    (budgetLines month budgets records).map (fun line => (line.category, line.budget)) =
      budgets.entries := by
  rw [budgetLines, List.map_map]
  exact List.map_id _

theorem pairwise_budgetLines (month : Day) (budgets : Budgets) (records : List Transaction) :
    (budgetLines month budgets records).Pairwise fun line line' =>
      Bytes.ofText line.category < Bytes.ofText line'.category := by
  have sorted := budgets.sorted
  rw [← entries_budgetLines month budgets records, List.pairwise_map] at sorted
  exact sorted.imp Bytes.ofText_lt

theorem Budgets.insertEntry_of_mem {key : String} {amount : Float} {entries : List (String × Float)}
    (sorted : entries.Pairwise (·.1 < ·.1)) (listed : key ∈ entries.map (·.1)) :
    insertEntry key amount entries = entries.map fun e => if e.1 = key then (key, amount) else e := by
  induction entries with
  | nil => cases listed
  | cons e rest ih =>
    obtain ⟨before, tail⟩ := List.pairwise_cons.1 sorted
    unfold insertEntry
    split
    next less =>
      exfalso
      obtain ⟨d, member, rfl⟩ := List.mem_map.1 listed
      rcases List.mem_cons.1 member with rfl | later
      · exact String.lt_irrefl _ less
      · exact String.lt_asymm less (before d later)
    next notLess =>
      split
      next greater =>
        have other : e.1 ≠ key := String.ne_of_lt greater
        have later : key ∈ rest.map (·.1) := by simpa [other.symm] using listed
        rw [List.map_cons, if_neg other, ih tail later]
      next notGreater =>
        have same : e.1 = key := String.le_antisymm notLess notGreater
        have others : ∀ d ∈ rest, d.1 ≠ key := by
          rintro d member rfl
          exact String.lt_irrefl _ (same ▸ before d member)
        rw [List.map_cons, if_pos same]
        congr 1
        symm
        calc rest.map (fun e => if e.1 = key then (key, amount) else e)
          _ = rest.map id := List.map_congr_left fun d member => if_neg (others d member)
          _ = rest := List.map_id rest

/-- Another amount for a category that has one changes the line of this category alone. -/
theorem budgetLines_insert (month : Day) {budgets : Budgets} {key : String}
    (listed : key ∈ budgets.entries.map (·.1)) (amount : Float) (records : List Transaction) :
    budgetLines month (budgets.insert key amount) records =
      (budgetLines month budgets records).map fun line =>
        if line.category = key then .of key amount line.spent else line := by
  have entries : (budgets.insert key amount).entries = _ :=
    Budgets.insertEntry_of_mem budgets.sorted listed
  rw [budgetLines, entries, budgetLines, List.map_map, List.map_map]
  apply List.map_congr_left
  intro e _
  by_cases here : e.1 = key
  · simp [here, BudgetLine.of]
  · simp [here, BudgetLine.of]

/-- A budget report keeps every bit when records come or go that lie outside the month or have no
budget, or when the order changes but for that within a category; its lines are those of the budgets,
in order of the bytes of the categories, and each shows its own budget. A comparison keeps every bit
when records come or go that lie outside both periods or have another category. -/
theorem reports_read_own_records (records : List Transaction) (month : Day) (budgets : Budgets)
    (current previous : Period) (category : Option String) :
    (∀ records', Relation.ReflTransGen (BudgetEdit month budgets) records records' →
      budgetLines month budgets records = budgetLines month budgets records') ∧
    (budgetLines month budgets records).map (fun line => (line.category, line.budget)) =
      budgets.entries ∧
    ((budgetLines month budgets records).Pairwise fun line line' =>
      Bytes.ofText line.category < Bytes.ofText line'.category) ∧
    (∀ key ∈ budgets.entries.map (·.1), ∀ amount,
      budgetLines month (budgets.insert key amount) records =
        (budgetLines month budgets records).map fun line =>
          if line.category = key then .of key amount line.spent else line) ∧
    ∀ records', Relation.ReflTransGen (ComparisonEdit current previous category) records records' →
      compare current previous category records = compare current previous category records' := by
  refine ⟨?_, entries_budgetLines month budgets records, pairwise_budgetLines month budgets records,
    ?_, ?_⟩
  · intro records' run
    exact eq_of_steps (fun _ _ step => step.budgetLines_eq) run
  · intro key listed amount
    exact budgetLines_insert month listed amount records
  · intro records' run
    exact eq_of_steps (fun _ _ step => step.compare_eq) run

/-- A book comes between two records of a category, and a record of another category moves to the
front. The bytes of an accent come after those of a plain letter. -/
theorem reports_read_own_records_accent :
    let leapDay : Day := ⟨2024, 2, 29, by decide⟩
    let tea : Transaction := ⟨1, "Tea", .ofFloat 0.1, "Café", leapDay, .midnight⟩
    let cake : Transaction := ⟨2, "Cake", .ofFloat 0.2, "Café", leapDay, .midnight⟩
    let beans : Transaction := ⟨3, "Beans", .ofFloat 7.5, "Cafz", leapDay, .midnight⟩
    let book : Transaction := ⟨4, "Book", .ofFloat 0.3, "Books", leapDay, .midnight⟩
    let budgets := (Budgets.empty.insert "Café" 0.25).insert "Cafz" 10.0
    let period : Period := ⟨leapDay, leapDay⟩
    let records := [tea, cake, beans]
    let records' := [beans, tea, book, cake]
    Relation.ReflTransGen (BudgetEdit leapDay budgets) records records' ∧
      budgetLines leapDay budgets records = budgetLines leapDay budgets records' ∧
      (budgetLines leapDay budgets records).map (·.category) = ["Cafz", "Café"] ∧
      "Café" ∈ budgets.entries.map (·.1) ∧
      budgetLines leapDay (budgets.insert "Café" 1.0) records =
        [.of "Cafz" 10.0 7.5, .of "Café" 1.0 0.30000000000000004] ∧
      Relation.ReflTransGen (ComparisonEdit period period (some "Café")) records [tea, cake] ∧
      compare period period (some "Café") records = compare period period (some "Café") [tea, cake] := by
  intro leapDay tea cake beans book budgets period records records'
  have reordered : Reordered [tea, book, cake, beans] records' := by
    refine ⟨by decide, fun category => ?_⟩
    by_cases here : "Cafz" = category
    · subst here
      decide
    · simp [records', beans, List.filter_cons, here]
  have edits : Relation.ReflTransGen (BudgetEdit leapDay budgets) records records' :=
    .tail (.single (.edit (.insert [tea] [cake, beans] (.inr (by decide))))) (.reorder reordered)
  have listed : "Café" ∈ budgets.entries.map (·.1) := by decide
  have removal : Relation.ReflTransGen (ComparisonEdit period period (some "Café")) records [tea, cake] :=
    .single (.remove [tea, cake] [] (.inr ⟨"Café", rfl, by decide, by decide⟩))
  obtain ⟨lines, -, -, changed, compared⟩ :=
    reports_read_own_records records leapDay budgets period period (some "Café")
  refine ⟨edits, lines _ edits, by decide +kernel, listed, ?_, removal, compared _ removal⟩
  rw [changed _ listed]
  decide +kernel

end Outlay.Spending
