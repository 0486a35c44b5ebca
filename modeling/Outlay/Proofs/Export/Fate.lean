import Mathlib.Algebra.Group.Nat.Defs
import Mathlib.Data.List.Forall2
import Mathlib.Data.Set.List
import Outlay.Export.Listing
import Outlay.Proofs.Export.Row

/-!
# No row is lost

Each row of an export is blank, reported or taken in, in the order of the rows, and has a position
whatever becomes of it. A table is refused as a whole only if a cell is no text or a column is
missing.
-/

namespace Outlay.Export

open Json

/-- The id in a line, if there is a column of ids and its cell holds one. -/
def idOf (header record : List String) : Option Int64 :=
  (column? header ["id"]).bind fun place => readId? (cell record place)

def Columns.fate (columns : Columns) (record : List String) (position : Nat) : Fate :=
  if isBlankRecord record then .blank
  else .ofOutcome ((columns.row record).toRecord position)

theorem isBlankRecord_iff {record : List String} :
    isBlankRecord record = true ↔ ∀ c ∈ record, Text.isBlankText c = true := List.all_eq_true

theorem settles_fate {header : List String} {columns : Columns}
    (named : Columns.ofHeader header = .ok columns) (record : List String) (position : Nat) :
    Fate.Settles (∀ c ∈ record, Text.isBlankText c = true) (idOf header record) position
      (columns.fate record position) := by
  rw [← isBlankRecord_iff]
  unfold Columns.fate
  by_cases blank : isBlankRecord record = true
  · rw [if_pos blank]
    exact .blank blank
  · rw [if_neg blank]
    have sameId : (columns.row record).id = idOf header record := by
      rw [idOf, ← (ofHeader_eq_ok_iff.1 named).2.2.2.1]
      rfl
    rw [← sameId]
    exact Fate.settles_ofOutcome blank _ _

section

variable (columns : Columns) (records : List (List String))

def Columns.fates : List Fate := (records.zipIdx 1).map fun line => columns.fate line.1 line.2

theorem records_ofRows_rows :
    (Import.ofRows (columns.rows records)).records = (columns.fates records).filterMap Fate.record? := by
  rw [Import.records_ofRows, Columns.rows, List.filterMap_map, List.filterMap_filter, Columns.fates,
    List.filterMap_map]
  apply List.filterMap_congr
  rintro ⟨record, position⟩ -
  by_cases blank : isBlankRecord record = true <;> simp [Columns.fate, blank, Fate.record?]

theorem events_ofRows_rows :
    (Import.ofRows (columns.rows records)).events = (columns.fates records).filterMap Fate.event? := by
  rw [Import.events_ofRows, Columns.rows, List.filterMap_map, List.filterMap_filter, Columns.fates,
    List.filterMap_map]
  apply List.filterMap_congr
  rintro ⟨record, position⟩ -
  by_cases blank : isBlankRecord record = true <;> simp [Columns.fate, blank, Fate.event?]

end

theorem positions_ascend {α : Type} (rows : List α) (first : Nat) :
    (rows.zipIdx first).Pairwise (·.2 < ·.2) := by
  have ascending := List.pairwise_lt_range' (s := first) (n := rows.length) 1
  rw [← List.zipIdx_map_snd] at ascending
  exact List.pairwise_map.1 ascending

theorem Fate.Settles.id_eq {blankRow : Prop} {id : Option Int64} {position : Nat} {fate : Fate}
    (settled : fate.Settles blankRow id position) {t : Transaction} (found : fate.record? = some t) :
    t.id = id.getD (Int64.ofNat position) := by
  cases settled with
  | blank => cases found
  | rejected => cases found
  | accepted _ same =>
    cases found
    exact same

/-- What an import holds is what the fates of the rows say, one after the other. -/
structure Import.Accounts {α : Type} (found : Import) (rows : List α) (isBlank : α → Prop)
    (id : α → Option Int64) (fates : List Fate) : Prop where
  records : found.records = fates.filterMap Fate.record?
  events : found.events = fates.filterMap Fate.event?
  settled : List.Forall₂ (fun row fate => fate.Settles (isBlank row.1) (id row.1) row.2)
    (rows.zipIdx 1) fates
  /-- Positions of 64 bits that serve as ids ascend. -/
  ascending : (∀ row ∈ rows, id row = none) → rows.length < 2 ^ 63 →
    found.records.Pairwise (·.id < ·.id)

section

variable {α : Type} {rows : List α} {isBlank : α → Prop} {id : α → Option Int64}
  {fate : α × Nat → Fate}

theorem ids_ascend (settled : ∀ row, (fate row).Settles (isBlank row.1) (id row.1) row.2)
    (positional : ∀ row ∈ rows, id row = none) (few : rows.length < 2 ^ 63) :
    (((rows.zipIdx 1).map fate).filterMap Fate.record?).Pairwise (·.id < ·.id) := by
  have idOfRow : ∀ row ∈ rows.zipIdx 1, ∀ t, (fate row).record? = some t →
      t.id = Int64.ofNat row.2 := by
    intro row member t found
    rw [(settled row).id_eq found, positional row.1 (List.fst_mem_of_mem_zipIdx member)]
    rfl
  rw [List.filterMap_map, List.pairwise_filterMap]
  refine (positions_ascend rows 1).imp_of_mem ?_
  intro row later member laterMember before t found t' found'
  have bound := (List.mem_zipIdx laterMember).2.1
  rw [idOfRow row member t found, idOfRow later laterMember t' found', Int64.lt_iff_toInt_lt,
    Int64.toInt_ofNat_of_lt (by omega), Int64.toInt_ofNat_of_lt (by omega)]
  exact Int.ofNat_lt.2 before

theorem accounts_of_settles (settled : ∀ row, (fate row).Settles (isBlank row.1) (id row.1) row.2)
    {found : Import} (records : found.records = ((rows.zipIdx 1).map fate).filterMap Fate.record?)
    (events : found.events = ((rows.zipIdx 1).map fate).filterMap Fate.event?) :
    found.Accounts rows isBlank id ((rows.zipIdx 1).map fate) where
  records := records
  events := events
  settled := by
    rw [List.forall₂_map_right_iff, List.forall₂_same]
    exact fun row _ => settled row
  ascending positional few := by
    rw [records]
    exact ids_ascend settled positional few

end

theorem text?_ne_none_iff {c : Bytes} : c.text? ≠ none ↔ c ∈ Set.range Bytes.ofText := by
  rw [Option.ne_none_iff_exists']
  constructor
  · rintro ⟨text, spelled⟩
    exact ⟨text, (Bytes.eq_ofText_of_text? spelled).symm⟩
  · rintro ⟨text, rfl⟩
    exact ⟨text, Bytes.text?_ofText text⟩

theorem exists_texts_iff {table : List (List Bytes)} :
    (∃ records : List (List String), records.map (·.map Bytes.ofText) = table) ↔
      ∀ record ∈ table, ∀ c ∈ record, c.text? ≠ none := by
  change table ∈ Set.range (List.map (List.map Bytes.ofText)) ↔ _
  simp only [Set.range_list_map, text?_ne_none_iff]
  rfl

/-- A whole table is refused for one of two reasons. -/
theorem exists_readTable_eq_error_iff (file : Bytes) :
    (∃ e, readTable file = .error e) ↔
      (∃ record ∈ Csv.ofFile file, ∃ c ∈ record, c.text? = none) ∨
      ∃ header : List String, (Csv.ofFile file).headD [] = header.map Bytes.ofText ∧
        ¬HasColumns header := by
  constructor
  · rintro ⟨e, failed⟩
    by_contra readable
    push Not at readable
    obtain ⟨spelled, named⟩ := readable
    obtain ⟨table, texts⟩ := exists_texts_iff.2 spelled
    have columnsOf : ∃ columns, Columns.ofHeader (table.headD []) = .ok columns := by
      apply exists_ofHeader_iff.2
      apply named
      rw [← texts]
      cases table <;> rfl
    obtain ⟨columns, columned⟩ := columnsOf
    cases table with
    | nil => exact not_hasColumns_nil (exists_ofHeader_iff.1 ⟨columns, columned⟩)
    | cons header records =>
      rw [readTable, ofTable_eq_ok_iff.2 ⟨header, records, columns, texts.symm, columned, rfl⟩] at failed
      cases failed
  · intro refused
    cases outcome : readTable file with
    | error e => exact ⟨e, rfl⟩
    | ok found =>
      obtain ⟨header, records, columns, texts, columned, -⟩ := ofTable_eq_ok_iff.1 outcome
      rcases refused with ⟨record, inTable, c, inRecord, noText⟩ | ⟨header', first, lacking⟩
      · exact absurd noText (exists_texts_iff.1 ⟨_, texts.symm⟩ record inTable c inRecord)
      · rw [texts] at first
        have same : header = header' := List.map_injective_iff.2 (fun _ _ => Bytes.ofText_injective) first
        exact absurd (exists_ofHeader_iff.1 ⟨columns, columned⟩) (same ▸ lacking)

theorem readListing_eq_ok_iff {text : String} {found : Import} :
    readListing text = .ok found ↔
      ∃ rows, readText (Node.list ListedRow.ofJson) text = .ok rows ∧ ofListing rows = found := by
  unfold readListing
  cases readText (Node.list ListedRow.ofJson) text <;> simp [Except.map]

theorem accounts_ofListing (rows : List ListedRow) :
    (ofListing rows).Accounts rows (fun _ => False) (·.id)
      ((rows.zipIdx 1).map fun row => .ofOutcome (row.1.raw.toRecord row.2)) := by
  apply accounts_of_settles
  · intro row
    exact Fate.settles_ofOutcome id row.1.raw row.2
  · rw [ofListing, Import.records_ofRows, List.filterMap_map, List.filterMap_map]
    rfl
  · rw [ofListing, Import.events_ofRows, List.filterMap_map, List.filterMap_map]
    rfl

/-- Every row has one fate, told by its position; whole exports are refused for their form alone. -/
theorem imports_settle_every_row :
    (∀ (file : Bytes) (header : List String) (records : List (List String)),
      Csv.ofFile file = (header :: records).map (·.map Bytes.ofText) → HasColumns header →
      ∃ found fates, readTable file = .ok found ∧
        found.Accounts records (fun record => ∀ c ∈ record, Text.isBlankText c = true)
          (idOf header) fates) ∧
    (∀ file, (∃ e, readTable file = .error e) ↔
      (∃ record ∈ Csv.ofFile file, ∃ c ∈ record, c.text? = none) ∨
      ∃ header : List String, (Csv.ofFile file).headD [] = header.map Bytes.ofText ∧
        ¬HasColumns header) ∧
    (∀ text rows, readText (Node.list ListedRow.ofJson) text = .ok rows →
      ∃ found fates, readListing text = .ok found ∧
        found.Accounts rows (fun _ => False) (·.id) fates) ∧
    (∀ text, (∃ p, readListing text = .error p) ↔
      ∃ p, readText (Node.list ListedRow.ofJson) text = .error p) := by
  refine ⟨?_, exists_readTable_eq_error_iff, ?_, ?_⟩
  · intro file header records texts named
    obtain ⟨columns, columned⟩ := exists_ofHeader_iff.2 named
    have read := ofTable_eq_ok_iff.2 ⟨header, records, columns, texts, columned, rfl⟩
    refine ⟨_, columns.fates records, read, ?_⟩
    apply accounts_of_settles
    · intro line
      exact settles_fate columned line.1 line.2
    · exact records_ofRows_rows columns records
    · exact events_ofRows_rows columns records
  · intro text rows read
    exact ⟨ofListing rows, _, readListing_eq_ok_iff.2 ⟨rows, read, rfl⟩, accounts_ofListing rows⟩
  · intro text
    unfold readListing
    cases readText (Node.list ListedRow.ofJson) text <;> simp [Except.map]

/-- A refund, a blank line, a line that is cut short and one that is too long. -/
theorem imports_settle_every_row_ragged :
    let file := Bytes.ofText
      " Date ,AMOUNT,description\n2026-01-01,-3,refund\n , ,\n2026-01-02\n2026-01-03,4,Cafe,more\n"
    let header := [" Date ", "AMOUNT", "description"]
    let records := [["2026-01-01", "-3", "refund"], [" ", " ", ""], ["2026-01-02"],
      ["2026-01-03", "4", "Cafe", "more"]]
    Csv.ofFile file = (header :: records).map (·.map Bytes.ofText) ∧ HasColumns header ∧
      ∃ found fates, readTable file = .ok found ∧
        found.Accounts records (fun record => ∀ c ∈ record, Text.isBlankText c = true)
          (idOf header) fates ∧
        found.records.map (·.id) = [4] ∧ found.events.map (·.row?) = [some 1, some 3] := by
  intro file header records
  have texts : Csv.ofFile file = (header :: records).map (·.map Bytes.ofText) := by decide +kernel
  have named : HasColumns header := by
    constructor <;> exact exists_column?_iff.1 (Option.isSome_iff_exists.1 (by decide +kernel))
  obtain ⟨found, fates, read, accounts⟩ := imports_settle_every_row.1 file header records texts named
  have answers : (readTable file).toOption.map (fun found =>
      (found.records.map (·.id), found.events.map (·.row?))) = some ([4], [some 1, some 3]) := by
    decide +kernel
  rw [read] at answers
  obtain ⟨ids, rows⟩ := Prod.mk.inj (Option.some.inj answers)
  exact ⟨texts, named, found, fates, read, accounts, ids, rows⟩

end Outlay.Export
