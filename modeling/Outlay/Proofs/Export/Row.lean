import Outlay.Export.Row
import Outlay.Proofs.Export.Table

/-!
# Rows one by one

A row becomes a record or is reported, never both, and what becomes of it hangs on the row and its
position alone.
-/

namespace Outlay

/-- The position of the row that is reported. -/
def Event.row? : Event → Option Nat
  | .negativeAmount row _ | .unreadableAmount row _ | .unreadableTimestamp row _ => some row
  | .filtered .. | .loaded .. => none

namespace Export

namespace RawRow

variable {row : RawRow} {position : Nat}

theorem readAmount_eq_ok_iff {amount : Float} :
    row.readAmount position = .ok amount ↔
      row.amount.or (readAmount? row.amountText) = some amount ∧ amount ≥ 0.0 := by
  unfold readAmount
  cases row.amount.or (readAmount? row.amountText) with
  | none => simp
  | some x =>
    by_cases h : x ≥ 0.0
    · simp only [h, if_true, Except.ok.injEq, Option.some.injEq]
      constructor
      · rintro rfl
        exact ⟨rfl, h⟩
      · exact And.left
    · simp only [h, if_false, Option.some.injEq]
      constructor
      · intro failed
        cases failed
      · rintro ⟨rfl, unsigned⟩
        exact absurd unsigned h

theorem readTimestamp_eq_ok_iff {timestamp : Calendar.Timestamp} :
    row.readTimestamp position = .ok timestamp ↔ readMoment? row.timestamp = some timestamp := by
  unfold readTimestamp
  cases readMoment? row.timestamp <;> simp

theorem toRecord_eq_ok_iff {t : Transaction} :
    row.toRecord position = .ok t ↔ ∃ amount timestamp,
      row.readAmount position = .ok amount ∧ readMoment? row.timestamp = some timestamp ∧
      t = { id := row.id.getD (Int64.ofNat position), description := Text.trimmed row.description,
            amount := .ofFloat amount, category := categoryOf row.category, timestamp } := by
  unfold toRecord
  simp only [bind_eq_ok_iff, readTimestamp_eq_ok_iff]
  constructor
  · rintro ⟨amount, read, timestamp, moment, same⟩
    cases same
    exact ⟨amount, timestamp, read, moment, rfl⟩
  · rintro ⟨amount, timestamp, read, moment, rfl⟩
    exact ⟨amount, read, timestamp, moment, rfl⟩

theorem warn_of_toRecord_eq_error {event : Event} (h : row.toRecord position = .error event) :
    event.level = .warn ∧ event.row? = some position := by
  unfold toRecord at h
  rcases bind_eq_error_iff.1 h with amount | ⟨amount, -, h⟩
  · unfold readAmount at amount
    split at amount
    · cases amount
      exact ⟨rfl, rfl⟩
    · split at amount
      · cases amount
      · cases amount
        exact ⟨rfl, rfl⟩
  · rcases bind_eq_error_iff.1 h with timestamp | ⟨timestamp, -, h⟩
    · unfold readTimestamp at timestamp
      split at timestamp
      · cases timestamp
        exact ⟨rfl, rfl⟩
      · cases timestamp
    · cases h

theorem id_of_toRecord_eq_ok {t : Transaction} (h : row.toRecord position = .ok t) :
    t.id = row.id.getD (Int64.ofNat position) := by
  obtain ⟨amount, timestamp, -, -, rfl⟩ := toRecord_eq_ok_iff.1 h
  rfl

end RawRow

/-- What becomes of a row. -/
inductive Fate where
  | blank
  | rejected (event : Event)
  | accepted (record : Transaction)

namespace Fate

def record? : Fate → Option Transaction
  | accepted record => some record
  | blank | rejected _ => none

def event? : Fate → Option Event
  | rejected event => some event
  | blank | accepted _ => none

def ofOutcome : Except Event Transaction → Fate
  | .ok record => accepted record
  | .error event => rejected event

/-- What a fate says of a row at a position. A row without an id takes its position for it. -/
inductive Settles (blankRow : Prop) (id : Option Int64) (position : Nat) : Fate → Prop
  | blank : blankRow → Settles blankRow id position .blank
  | rejected {event : Event} : ¬blankRow → event.level = .warn → event.row? = some position →
      Settles blankRow id position (.rejected event)
  | accepted {record : Transaction} : ¬blankRow → record.id = id.getD (Int64.ofNat position) →
      Settles blankRow id position (.accepted record)

theorem record?_ofOutcome (outcome : Except Event Transaction) :
    (ofOutcome outcome).record? = outcome.toOption := by
  cases outcome <;> rfl

theorem settles_ofOutcome {blankRow : Prop} (filled : ¬blankRow) (row : RawRow) (position : Nat) :
    Settles blankRow row.id position (ofOutcome (row.toRecord position)) := by
  cases outcome : row.toRecord position with
  | ok record => exact .accepted filled (RawRow.id_of_toRecord_eq_ok outcome)
  | error event =>
    obtain ⟨warned, here⟩ := RawRow.warn_of_toRecord_eq_error outcome
    exact .rejected filled warned here

end Fate

namespace Import

theorem records_ofRows (rows : List (RawRow × Nat)) :
    (ofRows rows).records = rows.filterMap fun row => (Fate.ofOutcome (row.1.toRecord row.2)).record? := by
  induction rows with
  | nil => rfl
  | cons row rows ih =>
    rw [List.filterMap_cons, ← ih, ofRows, List.foldr_cons]
    cases row.1.toRecord row.2 <;> rfl

theorem events_ofRows (rows : List (RawRow × Nat)) :
    (ofRows rows).events = rows.filterMap fun row => (Fate.ofOutcome (row.1.toRecord row.2)).event? := by
  induction rows with
  | nil => rfl
  | cons row rows ih =>
    rw [List.filterMap_cons, ← ih, ofRows, List.foldr_cons]
    cases row.1.toRecord row.2 <;> rfl

end Import

end Export

end Outlay
