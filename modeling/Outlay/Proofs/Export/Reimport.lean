import Outlay.Command.Run
import Outlay.Proofs.Export.Amount
import Outlay.Proofs.Export.Fate
import Outlay.Proofs.Json.Fields
import Outlay.Proofs.Query.Search

/-!
# Records are read back

Whatever an export has been read as, its records written as JSON are a listing that is read as the same
records, as long as their amounts are finite.
-/

namespace Outlay

open Json

namespace Transaction

/-- What reading a row leaves of a record: texts are trimmed, the category is not empty and the amount
is not below zero. -/
structure IsLoaded (t : Transaction) : Prop where
  description : Text.trimmed t.description = t.description
  category : Export.categoryOf (some t.category) = t.category
  amount : t.amount = .ofFloat t.amount.value
  unsigned : t.amount.value ≥ 0.0

end Transaction

namespace Export

theorem categoryOf_of_trimmed {category : String} (trimmed : Text.trimmed category = category)
    (nonempty : category.isEmpty = false) : categoryOf (some category) = category := by
  simp [categoryOf, Option.filter_some, trimmed, nonempty]

theorem categoryOf_categoryOf (category : Option String) :
    categoryOf (some (categoryOf category)) = categoryOf category := by
  have fallback : categoryOf (some defaultCategory) = defaultCategory := by decide +kernel
  cases category with
  | none => exact fallback
  | some category =>
    cases empty : (Text.trimmed category).isEmpty with
    | true =>
      have missing : categoryOf (some category) = defaultCategory := by
        simp [categoryOf, Option.filter_some, empty]
      rw [missing, fallback]
    | false =>
      have kept : categoryOf (some category) = Text.trimmed category := by
        simp [categoryOf, Option.filter_some, empty]
      rw [kept, categoryOf_of_trimmed (Text.trimmed_trimmed category) empty]

theorem isLoaded_of_toRecord {row : RawRow} {position : Nat} {t : Transaction}
    (read : row.toRecord position = .ok t) : t.IsLoaded := by
  obtain ⟨amount, timestamp, readAmount, -, rfl⟩ := RawRow.toRecord_eq_ok_iff.1 read
  obtain ⟨-, unsigned⟩ := RawRow.readAmount_eq_ok_iff.1 readAmount
  exact ⟨Text.trimmed_trimmed _, categoryOf_categoryOf _, rfl, unsigned⟩

theorem isLoaded_of_mem_ofRows {rows : List (RawRow × Nat)} {t : Transaction}
    (member : t ∈ (Import.ofRows rows).records) : t.IsLoaded := by
  rw [Import.records_ofRows] at member
  obtain ⟨row, -, found⟩ := List.mem_filterMap.1 member
  cases outcome : row.1.toRecord row.2 with
  | ok record =>
    rw [outcome] at found
    obtain rfl : record = t := Option.some.inj found
    exact isLoaded_of_toRecord outcome
  | error event =>
    rw [outcome] at found
    cases found

/-- An export of either kind is read as this. -/
def IsImport (found : Import) : Prop :=
  (∃ file, readTable file = .ok found) ∨ ∃ text, readListing text = .ok found

theorem IsImport.isLoaded {found : Import} (h : IsImport found) :
    ∀ t ∈ found.records, t.IsLoaded := by
  intro t member
  rcases h with ⟨file, table⟩ | ⟨text, listing⟩
  · obtain ⟨header, records, columns, -, -, rfl⟩ := ofTable_eq_ok_iff.1 table
    exact isLoaded_of_mem_ofRows member
  · obtain ⟨rows, -, rfl⟩ := readListing_eq_ok_iff.1 listing
    exact isLoaded_of_mem_ofRows member

/-! A record as a row of a listing. -/

/-- The row that a record is written as. -/
def rowOf (t : Transaction) : ListedRow where
  id := some t.id
  description := t.description
  amount := .number t.amount.value
  category := some t.category
  timestamp := String.ofList t.timestamp.text

theorem ofJson_ofFloat {x : Float} (finite : x.isFinite = true) :
    ListedAmount.ofJson (.ofFloat x) = .ok (.number x) := by
  obtain ⟨numeral, written, read⟩ := Node.exists_ofFloat_eq finite
  rw [written]
  exact ofJson_number read rfl

theorem ofJson_toJson {t : Transaction} (finite : t.amount.value.isFinite = true) :
    ListedRow.ofJson (.ofValue t.toJson) = .ok (rowOf t) := by
  have members : Node.ofValue t.toJson = .object (.ofList [("id", .ofInt t.id.toInt),
      ("description", .ofText t.description), ("amount", .ofFloat t.amount.value),
      ("category", .ofText t.category),
      ("timestamp", .ofText (String.ofList t.timestamp.text))]) := rfl
  rw [members]
  change ListedRow.ofMembers _ = _
  rw [ListedRow.ofMembers, Members.foldRead_ofList]
  simp only [List.foldlM_cons, List.foldlM_nil, ListedRow.Draft.put, once, Node.optional_int64,
    Node.optional_text, Node.text_ofText, ofJson_ofFloat finite]
  rfl

/-- A loaded record is what its row is read as, at every position. -/
theorem toRecord_rowOf {t : Transaction} (loaded : t.IsLoaded) (position : Nat) :
    (rowOf t).raw.toRecord position = .ok t := by
  refine RawRow.toRecord_eq_ok_iff.2 ⟨t.amount.value, t.timestamp, ?_, readMoment?_text t.timestamp, ?_⟩
  · exact RawRow.readAmount_eq_ok_iff.2 ⟨rfl, loaded.unsigned⟩
  · obtain ⟨id, description, amount, category, timestamp⟩ := t
    change Transaction.mk id description amount category timestamp =
      ⟨id, Text.trimmed description, .ofFloat amount.value, categoryOf (some category), timestamp⟩
    rw [loaded.description, ← loaded.amount, loaded.category]

theorem ofRows_zipIdx {records : List Transaction} (loaded : ∀ t ∈ records, t.IsLoaded) (first : Nat) :
    Import.ofRows (((records.map rowOf).zipIdx first).map fun (row, position) => (row.raw, position)) =
      { records, events := [] } := by
  induction records generalizing first with
  | nil => rfl
  | cons t records ih =>
    rw [List.forall_mem_cons] at loaded
    have rest := ih loaded.2 (first + 1)
    rw [List.map_cons, List.zipIdx_cons, List.map_cons, Import.ofRows, List.foldr_cons]
    change (Import.ofRows _).add _ = _
    rw [rest, toRecord_rowOf loaded.1]
    rfl

theorem readListing_of_isWritten {records : List Transaction} (loaded : ∀ t ∈ records, t.IsLoaded)
    (finite : ∀ t ∈ records, t.amount.value.isFinite = true) {text : String}
    (written : (Value.array (records.map Transaction.toJson)).IsWritten text) :
    readListing text = .ok { records, events := [] } := by
  refine readListing_eq_ok_iff.2 ⟨records.map rowOf, ?_, ofRows_zipIdx loaded 1⟩
  rw [readText_of_isWritten written]
  change (Items.ofValues _).mapRead ListedRow.ofJson = _
  rw [Items.ofValues_eq]
  apply Items.mapRead_ofList
  rw [List.map_map, List.forall₂_map_left_iff, List.forall₂_map_right_iff, List.forall₂_same]
  exact fun t member => ofJson_toJson (finite t member)

theorem select_sublist (source : Command.Source) (query : String) (records : List Transaction) :
    (Command.select source query records).Sublist records := by
  rw [Command.select, Query.search_fst]
  exact List.filter_sublist.trans List.filter_sublist

/-- Records of an export are read back from JSON, with or without blanks in it, and so is what a search
prints. -/
theorem readListing_toJson {found : Import} (loaded : IsImport found) :
    (∀ records, records.Sublist found.records → (∀ t ∈ records, t.amount.value.isFinite = true) →
      readListing (Value.array (records.map Transaction.toJson)).compactText =
        .ok { records, events := [] } ∧
      readListing (Value.array (records.map Transaction.toJson)).prettyText =
        .ok { records, events := [] }) ∧
    ∀ (config : Config) (source : Command.Source) (query : String),
      (∀ t ∈ Command.select source query found.records, t.amount.value.isFinite = true) →
      readListing ((Command.Request.search source query true).report config found.records) =
        .ok { records := Command.select source query found.records, events := [] } := by
  have part {records : List Transaction} (sub : records.Sublist found.records) :
      ∀ t ∈ records, t.IsLoaded := fun t member => loaded.isLoaded t (sub.subset member)
  constructor
  · intro records sub finite
    exact ⟨readListing_of_isWritten (part sub) finite (isWritten_compactText _),
      readListing_of_isWritten (part sub) finite (isWritten_prettyText _)⟩
  · intro config source query finite
    exact readListing_of_isWritten (part (select_sublist source query _)) finite (isWritten_prettyLine _)

/-- A leap second with a fraction, a year before the first and a negative zero. -/
theorem readListing_toJson_leapSecond :
    let file := Bytes.ofText
      "description,amount,date\n Party ,0.1,2016-12-31 23:59:60.25\nIdes,-0,-0044-03-15\n"
    ∃ found, readTable file = .ok found ∧ IsImport found ∧ found.records.length = 2 ∧
      (∀ t ∈ found.records, t.amount.value.isFinite = true) ∧
      readListing (Value.array (found.records.map Transaction.toJson)).compactText =
        .ok { records := found.records, events := [] } ∧
      readListing (Value.array (found.records.map Transaction.toJson)).prettyText =
        .ok { records := found.records, events := [] } ∧
      readListing ((Command.Request.search {} "ides" true).report {} found.records) =
        .ok { records := Command.select {} "ides" found.records, events := [] } := by
  intro file
  have answers : (readTable file).toOption.map (fun found =>
      (found.records.length, found.records.all (·.amount.value.isFinite))) = some (2, true) := by
    decide +kernel
  cases read : readTable file with
  | error e =>
    rw [read] at answers
    cases answers
  | ok found =>
    rw [read] at answers
    obtain ⟨count, all⟩ := Prod.mk.inj (Option.some.inj answers)
    have finite : ∀ t ∈ found.records, t.amount.value.isFinite = true := List.all_eq_true.1 all
    have loaded : IsImport found := .inl ⟨file, read⟩
    obtain ⟨whole, searched⟩ := readListing_toJson loaded
    obtain ⟨compact, pretty⟩ := whole found.records (List.Sublist.refl _) finite
    refine ⟨found, rfl, loaded, count, finite, compact, pretty, searched {} {} "ides" ?_⟩
    exact fun t member => finite t ((select_sublist {} "ides" found.records).subset member)

end Export

end Outlay
