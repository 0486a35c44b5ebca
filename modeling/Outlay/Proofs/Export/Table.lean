import Outlay.Export.Table
import Outlay.Proofs.Except
import Outlay.Proofs.Text.Bytes

/-!
# When a table can be read

Every table can be whose cells are texts and whose header has the columns that have to be there; no
content of a cell and no length of a line is refused.
-/

namespace Outlay.Export

theorem decodeRecord_eq_ok_iff {record : List Bytes} {fields : List String} :
    decodeRecord record = .ok fields ↔ record = fields.map Bytes.ofText := by
  rw [← Bytes.mapM_text?_eq_some_iff]
  unfold decodeRecord
  cases record.mapM Bytes.text? <;> simp

theorem mapM_decodeRecord_eq_ok_iff {table : List (List Bytes)} {records : List (List String)} :
    table.mapM decodeRecord = .ok records ↔ table = records.map (·.map Bytes.ofText) := by
  induction table generalizing records with
  | nil => cases records <;> simp [pure, Except.pure]
  | cons record table ih =>
    rw [List.mapM_cons, bind_eq_ok_iff]
    constructor
    · rintro ⟨fields, first, more⟩
      obtain ⟨others, rest, same⟩ := bind_eq_ok_iff.1 more
      cases same
      rw [List.map_cons, ← decodeRecord_eq_ok_iff.1 first, ← ih.1 rest]
    · intro h
      cases records with
      | nil => cases h
      | cons fields others =>
        obtain ⟨first, rest⟩ := List.cons.inj h
        exact ⟨fields, decodeRecord_eq_ok_iff.2 first, bind_eq_ok_iff.2 ⟨others, ih.2 rest, rfl⟩⟩

/-- Some column has one of the names. -/
def HasColumn (header names : List String) : Prop :=
  ∃ h ∈ header, ∃ name ∈ names, isNamed h name = true

/-- The columns that have to be there. -/
structure HasColumns (header : List String) : Prop where
  description : HasColumn header ["description"]
  amount : HasColumn header ["amount"]
  timestamp : HasColumn header ["timestamp", "date"]

theorem exists_column?_iff {header names : List String} :
    (∃ place, column? header names = some place) ↔ HasColumn header names := by
  rw [← Option.isSome_iff_exists, column?, List.findIdx?_isSome]
  simp only [List.any_eq_true]
  rfl

theorem needColumn_eq_ok_iff {header names : List String} {title : String} {place : Nat} :
    needColumn header names title = .ok place ↔ column? header names = some place := by
  unfold needColumn
  cases column? header names <;> simp

theorem ofHeader_eq_ok_iff {header : List String} {columns : Columns} :
    Columns.ofHeader header = .ok columns ↔
      column? header ["description"] = some columns.description ∧
      column? header ["amount"] = some columns.amount ∧
      column? header ["timestamp", "date"] = some columns.timestamp ∧
      columns.id = column? header ["id"] ∧ columns.category = column? header ["category"] := by
  unfold Columns.ofHeader
  simp only [bind_eq_ok_iff, needColumn_eq_ok_iff]
  constructor
  · rintro ⟨_, description, _, amount, _, timestamp, same⟩
    cases same
    exact ⟨description, amount, timestamp, rfl, rfl⟩
  · rintro ⟨description, amount, timestamp, id, category⟩
    refine ⟨_, description, _, amount, _, timestamp, ?_⟩
    rw [← id, ← category]
    rfl

theorem exists_ofHeader_iff {header : List String} :
    (∃ columns, Columns.ofHeader header = .ok columns) ↔ HasColumns header := by
  constructor
  · rintro ⟨columns, h⟩
    obtain ⟨description, amount, timestamp, -, -⟩ := ofHeader_eq_ok_iff.1 h
    exact ⟨exists_column?_iff.1 ⟨_, description⟩, exists_column?_iff.1 ⟨_, amount⟩,
      exists_column?_iff.1 ⟨_, timestamp⟩⟩
  · intro h
    obtain ⟨description, hd⟩ := exists_column?_iff.2 h.description
    obtain ⟨amount, ha⟩ := exists_column?_iff.2 h.amount
    obtain ⟨timestamp, ht⟩ := exists_column?_iff.2 h.timestamp
    exact ⟨⟨column? header ["id"], description, amount, column? header ["category"], timestamp⟩,
      ofHeader_eq_ok_iff.2 ⟨hd, ha, ht, rfl, rfl⟩⟩

theorem not_hasColumns_nil : ¬HasColumns [] := by
  rintro ⟨⟨h, member, -⟩, -, -⟩
  cases member

/-- A table is read line by line below its header. -/
theorem ofTable_eq_ok_iff {table : List (List Bytes)} {found : Import} :
    ofTable table = .ok found ↔ ∃ header records columns,
      table = (header :: records).map (·.map Bytes.ofText) ∧
      Columns.ofHeader header = .ok columns ∧ found = .ofRows (columns.rows records) := by
  unfold ofTable
  simp only [bind_eq_ok_iff, decodeRecord_eq_ok_iff, mapM_decodeRecord_eq_ok_iff]
  constructor
  · rintro ⟨header, first, columns, named, records, rest, same⟩
    cases same
    refine ⟨header, records, columns, ?_, named, rfl⟩
    cases table with
    | nil =>
      obtain rfl : header = [] := List.map_eq_nil_iff.1 first.symm
      exact absurd (exists_ofHeader_iff.1 ⟨columns, named⟩) not_hasColumns_nil
    | cons line lines =>
      rw [List.map_cons, ← rest, ← first]
      rfl
  · rintro ⟨header, records, columns, rfl, named, rfl⟩
    exact ⟨header, rfl, columns, named, records, rfl, rfl⟩

end Outlay.Export
