import Mathlib.Data.Set.List
import Outlay.Export.Moment
import Outlay.Proofs.Calendar.Order
import Outlay.Proofs.Spending.Rows

/-!
# The days of a summary

A summary by days has one row for each day that occurs, in the order of their texts. This is the order of
the days as long as their years are written in order, as those of four digits are.
-/

namespace Outlay.Spending

open Calendar

/-- One row for each day that occurs, an earlier day in front of a later one. -/
def Chronological (records : List Transaction) (rows : List Row) : Prop :=
  ∃ days : List Day, days.Pairwise (· < ·) ∧ (∀ d, d ∈ days ↔ d ∈ records.map (·.day)) ∧
    rows.map (·.key) = days.map fun d => String.ofList d.text

def YearsInOrder (days : List Day) : Prop :=
  ∀ d ∈ days, ∀ e ∈ days, d.year < e.year → Day.yearText d.year < Day.yearText e.year

instance (days : List Day) : Decidable (YearsInOrder days) :=
  inferInstanceAs (Decidable (∀ d ∈ days, ∀ e ∈ days, _ → _))

theorem pairwise_lt_iff_yearsInOrder {days : List Day} (sorted : days.Pairwise fun d e => d.text < e.text) :
    days.Pairwise (· < ·) ↔ YearsInOrder days := by
  constructor
  · intro chronological
    refine List.Pairwise.forall_of_forall_of_flip (fun _ _ less => absurd less (Int.lt_irrefl _)) ?_ ?_
    · exact sorted.imp fun {d e} before less => (Day.text_lt_iff_of_year_ne (Int.ne_of_lt less)).1 before
    · refine chronological.imp fun {d e} before (less : e.year < d.year) => ?_
      rw [Day.lt_iff] at before
      omega
  · intro inOrder
    refine sorted.imp_of_mem fun {d e} memberD memberE before => ?_
    rcases Int.lt_trichotomy d.year e.year with less | same | greater
    · exact Day.lt_iff.2 (.inl less)
    · exact (Day.text_lt_iff_of_year_eq same).1 before
    · have years := inOrder e memberE d memberD greater
      have behind : e.text < d.text := (Day.text_lt_iff_of_year_ne (Int.ne_of_lt greater)).2 years
      exact absurd behind (List.lt_asymm before)

theorem ofList_lt_iff {s s' : List Char} : String.ofList s < String.ofList s' ↔ s < s' := by
  change (String.ofList s).toList < (String.ofList s').toList ↔ s < s'
  rw [String.toList_ofList, String.toList_ofList]

theorem text_injective : Function.Injective fun d : Day => String.ofList d.text :=
  fun _ _ same => Day.text_injective (String.ofList_injective same)

theorem exists_days (records : List Transaction) : ∃ days : List Day,
    days.Pairwise (fun d e => d.text < e.text) ∧ (∀ d, d ∈ days ↔ d ∈ records.map (·.day)) ∧
      (summarize .day none records).map (·.key) = days.map fun d => String.ofList d.text := by
  have divides := (Grouping.lists_allRows .day records).1
  have sorted := List.pairwise_map.2 (byKey_groupBy (fun t => String.ofList t.day.text) records)
  change ((summarize .day none records).map (·.key)).Pairwise (· < ·) at sorted
  have written : (summarize .day none records).map (·.key) ∈
      Set.range (List.map fun d : Day => String.ofList d.text) := by
    rw [Set.range_list_map]
    intro key member
    obtain ⟨t, -, rfl⟩ := List.mem_map.1 ((divides.occurring key).1 member)
    exact ⟨t.day, rfl⟩
  obtain ⟨days, written⟩ := written
  refine ⟨days, ?_, fun d => ?_, written.symm⟩
  · rw [← written, List.pairwise_map] at sorted
    exact sorted.imp ofList_lt_iff.1
  · have occurring := divides.occurring (String.ofList d.text)
    change _ ∈ (summarize .day none records).map (·.key) ↔ _ at occurring
    rw [← written, List.mem_map_of_injective text_injective] at occurring
    rw [occurring, ← List.mem_map_of_injective text_injective, List.map_map]
    rfl

theorem chronological_iff (records : List Transaction) :
    Chronological records (summarize .day none records) ↔ YearsInOrder (records.map (·.day)) := by
  obtain ⟨days, sorted, occurring, written⟩ := exists_days records
  have same : YearsInOrder (records.map (·.day)) ↔ YearsInOrder days := by
    simp only [YearsInOrder, occurring]
  rw [same, ← pairwise_lt_iff_yearsInOrder sorted]
  refine ⟨?_, fun chronological => ⟨days, chronological, occurring, written⟩⟩
  -- The rows tell their days, so there is only one list of them to be in order.
  rintro ⟨days', chronological, occurring', written'⟩
  rwa [List.map_injective_iff.2 text_injective (written.symm.trans written')]

theorem yearsInOrder_of_short {days : List Day} (short : ∀ d ∈ days, d.year ≤ 9999)
    (plain : ∀ d ∈ days, ∀ e ∈ days, d.year < e.year → 0 ≤ e.year) : YearsInOrder days :=
  fun d memberD e memberE less => yearText_lt_of_lt less (plain d memberD e memberE less) (short e memberE)

/-- Each day that occurs has one row. The rows are in the order of the days just if the years are written
in order, so at any rate if none has more than four digits and only the first of them has a minus. -/
theorem day_rows_chronological_iff (records : List Transaction) :
    (∃ days : List Day, days.Nodup ∧ (∀ d, d ∈ days ↔ d ∈ records.map (·.day)) ∧
      (summarize .day none records).map (·.key) = days.map fun d => String.ofList d.text) ∧
    (Chronological records (summarize .day none records) ↔ YearsInOrder (records.map (·.day))) ∧
    ((∀ d ∈ records.map (·.day), d.year ≤ 9999) →
      (∀ d ∈ records.map (·.day), ∀ e ∈ records.map (·.day), d.year < e.year → 0 ≤ e.year) →
        Chronological records (summarize .day none records)) := by
  obtain ⟨days, sorted, occurring, written⟩ := exists_days records
  have distinct : days.Nodup := by
    refine sorted.imp fun {d e} less => ?_
    rintro rfl
    exact List.lt_irrefl _ less
  refine ⟨⟨days, distinct, occurring, written⟩, chronological_iff records, fun short plain => ?_⟩
  exact (chronological_iff records).2 (yearsInOrder_of_short short plain)

/-- An expense at the start of the day. -/
def spentOn (day : Day) : Transaction := ⟨1, "Rent", .ofFloat 900.0, "Housing", ⟨day, .midnight⟩⟩

theorem day_rows_chronological_acrossYears :
    Chronological [spentOn ⟨2026, 3, 1, by decide⟩, spentOn ⟨-1, 12, 31, by decide⟩,
        spentOn ⟨2026, 3, 1, by decide⟩, spentOn ⟨2025, 12, 31, by decide⟩]
      (summarize .day none [spentOn ⟨2026, 3, 1, by decide⟩, spentOn ⟨-1, 12, 31, by decide⟩,
        spentOn ⟨2026, 3, 1, by decide⟩, spentOn ⟨2025, 12, 31, by decide⟩]) :=
  (day_rows_chronological_iff _).2.2 (by decide) (by decide)

/-- A year with a plus is read, and its day comes in front of earlier ones. -/
theorem day_rows_not_chronological :
    Export.readMoment? "+10000-01-01" = some (spentOn ⟨10000, 1, 1, by decide⟩).timestamp ∧
      Export.readMoment? "2026-03-01" = some (spentOn ⟨2026, 3, 1, by decide⟩).timestamp ∧
      ¬Chronological [spentOn ⟨10000, 1, 1, by decide⟩, spentOn ⟨2026, 3, 1, by decide⟩]
        (summarize .day none [spentOn ⟨10000, 1, 1, by decide⟩, spentOn ⟨2026, 3, 1, by decide⟩]) := by
  refine ⟨by decide +kernel, by decide +kernel, ?_⟩
  rw [chronological_iff]
  decide +kernel

end Outlay.Spending
