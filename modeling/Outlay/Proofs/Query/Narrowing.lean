import Outlay.Prefilter
import Outlay.Proofs.Query.Search

/-!
# Narrowing a list of records

A search and a prefilter each keep the records that pass a test of their own, whatever stands around
them. So steps of both kinds can be taken in any order and more than once, and the result is the
same.
-/

namespace Outlay

open Query Text

theorem Query.scan_eq_nil_iff {s : List Char} : scan s = [] ↔ ∀ c ∈ s, isBlank c = true := by
  constructor
  · induction s using scan_induction with
    | blank gap h => exact fun _ => h
    | token gap s h visible ih =>
      intro empty
      rw [scan_blank_append h, scan_of_startsVisible visible] at empty
      cases empty
  · exact scan_of_blank

/-- A query is empty if it holds nothing but blanks. -/
theorem Query.isEmpty_parse_iff {text : String} :
    (parse text).isEmpty = true ↔ ∀ c ∈ text.toList, isBlank c = true := by
  rw [parse_eq_ofTokens, ← scan_eq_nil_iff]
  exact List.isEmpty_iff

theorem Query.filter_parse (text : String) (records : List Transaction) :
    (parse text).filter records =
      records.filter fun t => decide (∀ token ∈ scanText text, token.accepts t = true) := by
  apply List.filter_congr
  intro t _
  rw [parse_eq_ofTokens, accepts_ofTokens, Bool.eq_iff_iff, List.all_eq_true, decide_eq_true_eq]

/-- A step that leaves out some of the records. -/
inductive Narrowing where
  | search (query : String)
  | prefilter (filter : Prefilter)

namespace Narrowing

def apply : Narrowing → List Transaction → List Transaction
  | search query, records => (Query.search query records).1
  | prefilter filter, records => filter.apply records

/-- The test that a record has to pass. -/
def keeps : Narrowing → Transaction → Bool
  | search query, t => (parse query).accepts t
  | prefilter filter, t => filter.accepts t

/-- The steps, one after the other. -/
def run (steps : List Narrowing) (records : List Transaction) : List Transaction :=
  steps.foldl (fun records step => step.apply records) records

/-- What a step does to a record does not depend on the others. -/
theorem apply_eq_filter (step : Narrowing) (records : List Transaction) :
    step.apply records = records.filter step.keeps := by
  cases step with
  | search query => exact search_fst_eq_filter_parse query records
  | prefilter filter => rfl

theorem run_eq_filter (steps : List Narrowing) (records : List Transaction) :
    run steps records = records.filter fun t => steps.all (·.keeps t) := by
  induction steps generalizing records with
  | nil => exact (List.filter_eq_self.2 fun _ _ => rfl).symm
  | cons step steps ih =>
    have first : run (step :: steps) records = run steps (step.apply records) := rfl
    rw [first, ih, apply_eq_filter, List.filter_filter]
    apply List.filter_congr
    intro t _
    rw [List.all_cons, Bool.and_comm]

theorem run_sublist (steps : List Narrowing) (records : List Transaction) :
    (run steps records).Sublist records := by
  rw [run_eq_filter]
  exact List.filter_sublist

/-- Only which steps are taken matters. -/
theorem run_eq_of_mem_iff {steps steps' : List Narrowing}
    (same : ∀ step, step ∈ steps ↔ step ∈ steps') (records : List Transaction) :
    run steps records = run steps' records := by
  rw [run_eq_filter, run_eq_filter]
  apply List.filter_congr
  intro t _
  rw [Bool.eq_iff_iff, List.all_eq_true, List.all_eq_true]
  exact forall_congr' fun step => imp_congr_left (same step)

/-- A search, the filter of the parsed query and the test of each token alone keep the same records,
and only a blank query is empty. Searches and prefilters that follow each other give a part of the
records, in their order, that depends neither on the order of the steps nor on how often one is taken. -/
theorem search_routes_agree (query : String) (records : List Transaction) :
    (Query.search query records).1 = (parse query).filter records ∧
      (parse query).filter records =
        records.filter (fun t => decide (∀ token ∈ scanText query, token.accepts t = true)) ∧
      ((parse query).isEmpty = true ↔ ∀ c ∈ query.toList, isBlank c = true) ∧
      (∀ steps, (run steps records).Sublist records) ∧
      ∀ steps steps', (∀ step, step ∈ steps ↔ step ∈ steps') →
        run steps records = run steps' records := by
  refine ⟨search_fst_eq_filter_parse query records, filter_parse query records, isEmpty_parse_iff,
    fun steps => run_sublist steps records, ?_⟩
  intro steps steps' same
  exact run_eq_of_mem_iff same records

/-- A search that is made twice, and before the prefilter, keeps what it keeps once and behind it. -/
theorem search_routes_agree_twice :
    let day : Calendar.Day := ⟨2024, 2, 29, by decide⟩
    let coffee : Transaction := ⟨1, "Coffee", .ofFloat 12.5, "Dining", day, .midnight⟩
    let records := [coffee, { coffee with category := "Work" }, { coffee with amount := .ofFloat 3.0 }]
    let dining := prefilter { category := some "Dining" }
    let large := search "coffee amt>10"
    (∀ step, step ∈ [large, dining, large] ↔ step ∈ [dining, large]) ∧
      run [large, dining, large] records = run [dining, large] records ∧
      run [dining, large] records = [coffee] := by
  intro day coffee records dining large
  have same : ∀ step, step ∈ [large, dining, large] ↔ step ∈ [dining, large] := by
    intro step
    simp only [List.mem_cons, List.not_mem_nil, or_false]
    tauto
  obtain ⟨-, -, -, -, steps⟩ := search_routes_agree "coffee amt>10" records
  exact ⟨same, steps _ _ same, by decide +kernel⟩

end Narrowing

end Outlay
