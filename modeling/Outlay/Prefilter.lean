import Outlay.Transaction

/-!
The coarse filter that narrows a store before a search: first and last day, one category, a least
amount. A constraint that is missing keeps every record.
-/

namespace Outlay

open Calendar

structure Prefilter where
  /-- First day that is kept. -/
  first : Option Day := none
  /-- Last day that is kept, up to its end. -/
  last : Option Day := none
  /-- The exact category, or `All` for any. -/
  category : Option String := none
  least : Option Float := none
  deriving DecidableEq

namespace Prefilter

def anyCategory : String := "All"

def keepsDay (f : Prefilter) (day : Day) : Bool :=
  f.first.all (· ≤ day) && f.last.all (day ≤ ·)

def keepsCategory (f : Prefilter) (category : String) : Bool :=
  f.category.all fun wanted => wanted == anyCategory || category == wanted

/-- Only an amount that lies below the least one is dropped, so what is no number stays. -/
def keepsAmount (f : Prefilter) (amount : Float) : Bool :=
  f.least.all fun least => !(amount < least)

def accepts (f : Prefilter) (t : Transaction) : Bool :=
  f.keepsDay t.day && f.keepsCategory t.category && f.keepsAmount t.amount.value

def apply (f : Prefilter) (records : List Transaction) : List Transaction :=
  records.filter f.accepts

/-- What each constraint that is there demands of a record. -/
theorem accepts_iff {f : Prefilter} {t : Transaction} :
    f.accepts t = true ↔ (∀ first ∈ f.first, first ≤ t.day) ∧ (∀ last ∈ f.last, t.day ≤ last) ∧
      (∀ wanted ∈ f.category, wanted = anyCategory ∨ t.category = wanted) ∧
      ∀ least ∈ f.least, ¬t.amount.value < least := by
  simp [accepts, keepsDay, keepsCategory, keepsAmount, Option.all_eq_true, and_assoc]

@[simp] theorem mem_apply {f : Prefilter} {records : List Transaction} {t : Transaction} :
    t ∈ f.apply records ↔ t ∈ records ∧ f.accepts t = true := List.mem_filter

end Prefilter

end Outlay
