import Outlay.Spending.Total

/-!
The spending of a month against the amounts set aside for categories. Categories without a budget
are not reported.
-/

namespace Outlay.Spending

open Calendar

/-- An amount for each category, in order of the categories. -/
structure Budgets where
  entries : List (String × Float)
  sorted : entries.Pairwise (·.1 < ·.1)
  deriving DecidableEq

namespace Budgets

def empty : Budgets := ⟨[], .nil⟩

/-- The entries with one more; an earlier one of its category is replaced. -/
def insertEntry (category : String) (amount : Float) :
    List (String × Float) → List (String × Float)
  | [] => [(category, amount)]
  | e :: rest =>
    if category < e.1 then (category, amount) :: e :: rest
    else if e.1 < category then e :: insertEntry category amount rest
    else (category, amount) :: rest

theorem mem_insertEntry {category : String} {amount : Float} {entries : List (String × Float)}
    {e : String × Float} (h : e ∈ insertEntry category amount entries) :
    e = (category, amount) ∨ e ∈ entries := by
  induction entries with
  | nil => simpa [insertEntry] using h
  | cons d rest ih =>
    simp only [insertEntry] at h
    split at h
    next => simpa using h
    next =>
      split at h
      next =>
        rcases List.mem_cons.1 h with rfl | h
        · simp
        · rcases ih h with h | h <;> simp [h]
      next =>
        rcases List.mem_cons.1 h with h | h <;> simp [h]

theorem pairwise_insertEntry (category : String) (amount : Float)
    {entries : List (String × Float)} (h : entries.Pairwise (·.1 < ·.1)) :
    (insertEntry category amount entries).Pairwise (·.1 < ·.1) := by
  induction entries with
  | nil => simp [insertEntry]
  | cons d rest ih =>
    obtain ⟨before, tail⟩ := List.pairwise_cons.1 h
    simp only [insertEntry]
    split
    next less =>
      refine List.pairwise_cons.2 ⟨fun e he => ?_, h⟩
      rcases List.mem_cons.1 he with rfl | he
      · exact less
      · exact String.lt_trans less (before e he)
    next notLess =>
      split
      next greater =>
        refine List.pairwise_cons.2 ⟨fun e he => ?_, ih tail⟩
        rcases mem_insertEntry he with rfl | he
        · exact greater
        · exact before e he
      next notGreater =>
        have same : d.1 = category := String.le_antisymm notLess notGreater
        exact List.pairwise_cons.2 ⟨fun e he => same ▸ before e he, tail⟩

def insert (b : Budgets) (category : String) (amount : Float) : Budgets :=
  ⟨insertEntry category amount b.entries, pairwise_insertEntry category amount b.sorted⟩

def ofList (entries : List (String × Float)) : Budgets :=
  entries.foldl (fun b e => b.insert e.1 e.2) empty

def isEmpty (b : Budgets) : Bool := b.entries.isEmpty

/-- The amount of a category, zero if it has none. -/
def amountOf (b : Budgets) (category : String) : Float :=
  ((b.entries.find? (·.1 == category)).map (·.2)).getD 0.0

/-- Adds to the amount of a category. -/
def add (b : Budgets) (category : String) (amount : Float) : Budgets :=
  b.insert category (b.amountOf category + amount)

end Budgets

inductive BudgetStatus where
  | onTrack
  | warning
  | overBudget
  deriving DecidableEq, Repr

namespace BudgetStatus

def label : BudgetStatus → String
  | onTrack => "On Track"
  | warning => "Warning"
  | overBudget => "Over Budget"

def all : List BudgetStatus := [onTrack, warning, overBudget]

/-- The share of a budget, in percent, above which a category is flagged. -/
def warningPercent : Float := 80.0

def of (spent budget percentUsed : Float) : BudgetStatus :=
  if spent > budget then overBudget
  else if percentUsed > warningPercent then warning
  else onTrack

end BudgetStatus

structure BudgetLine where
  category : String
  budget : Float
  spent : Float
  remaining : Float
  /-- Rounded to one place; the status is decided before that. -/
  percentUsed : Float
  status : BudgetStatus
  deriving DecidableEq

def percentUsed (spent budget : Float) : Float :=
  if budget > 0.0 then spent / budget * 100.0 else 0.0

def BudgetLine.of (category : String) (budget spent : Float) : BudgetLine where
  category := category
  budget := budget
  spent := spent
  remaining := budget - spent
  percentUsed := toTenths (Spending.percentUsed spent budget)
  status := .of spent budget (Spending.percentUsed spent budget)

/-- What each category took in the month of the given day, gathered in one pass. -/
def spentByCategory (month : Day) (records : List Transaction) : Budgets :=
  records.foldl (fun spent t =>
    if t.day.sameMonth month then spent.add t.category t.amount.value else spent) .empty

/-- One line for each budget. -/
def budgetLines (month : Day) (budgets : Budgets) (records : List Transaction) :
    List BudgetLine :=
  let spent := spentByCategory month records
  budgets.entries.map fun (category, budget) => .of category budget (spent.amountOf category)

end Outlay.Spending
