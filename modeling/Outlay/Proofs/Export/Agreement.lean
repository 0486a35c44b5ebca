import Outlay.Proofs.Csv.Line
import Outlay.Proofs.Export.Amount
import Outlay.Proofs.Export.Fate

/-!
# Both kinds of export agree

The same rows, written as a table and as a listing, are read as the same records.
-/

namespace Outlay.Export

open Json

/-- A row before it is written in one of the two ways. -/
structure Entry where
  id : Option Int64
  description : String
  amount : String
  category : Option String
  timestamp : String
  deriving DecidableEq

def columnNames : List String := ["id", "description", "amount", "category", "timestamp"]

/-! Tables. -/

def idText (id : Option Int64) : String := id.elim "" fun i => String.ofList (Decimal.intText i.toInt)

namespace Entry

/-- What is missing leaves a cell empty. -/
def cells (e : Entry) : List String :=
  [idText e.id, e.description, e.amount, e.category.getD "", e.timestamp]

end Entry

/-- The names of the columns may be in quotes; the cells are. -/
def tableText (quoteNames : Bool) (lineBreak : Csv.LineBreak) (entries : List Entry) : String :=
  String.ofList
    (Csv.lineText lineBreak (columnNames.map (if quoteNames then Csv.cellText else String.toList)) ++
      entries.flatMap fun e => Csv.lineText lineBreak (e.cells.map Csv.cellText))

theorem records_entries (lineBreak : Csv.LineBreak) (entries : List Entry) :
    Csv.records (Bytes.ofChars (entries.flatMap fun e =>
      Csv.lineText lineBreak (e.cells.map Csv.cellText))) =
        entries.map fun e => e.cells.map Bytes.ofText := by
  induction entries with
  | nil => exact Csv.records_nil
  | cons e entries ih =>
    have nonempty : e.cells ≠ [] := List.cons_ne_nil _ _
    rw [List.flatMap_cons, Bytes.ofChars_append, Csv.records_quotedLine lineBreak nonempty, ih]
    rfl

theorem records_columnNames (quoteNames : Bool) (lineBreak : Csv.LineBreak) (rest : Bytes) :
    Csv.records (Bytes.ofChars (Csv.lineText lineBreak
      (columnNames.map (if quoteNames then Csv.cellText else String.toList))) ++ rest) =
        columnNames.map Bytes.ofText :: Csv.records rest := by
  cases quoteNames with
  | true => exact Csv.records_quotedLine lineBreak (List.cons_ne_nil _ _) rest
  | false => exact Csv.records_plainLine lineBreak (by decide) (by decide +kernel) rest

theorem ofFile_tableText (quoteNames : Bool) (lineBreak : Csv.LineBreak) (entries : List Entry) :
    Csv.ofFile (Bytes.ofText (tableText quoteNames lineBreak entries)) =
      (columnNames :: entries.map Entry.cells).map (·.map Bytes.ofText) := by
  have noMark : Csv.dropMark (Bytes.ofText (tableText quoteNames lineBreak entries)) =
      Bytes.ofText (tableText quoteNames lineBreak entries) := by
    rw [tableText, Bytes.ofText_ofList]
    cases quoteNames <;> rfl
  rw [Csv.ofFile, noMark, tableText, Bytes.ofText_ofList, Bytes.ofChars_append, records_columnNames,
    records_entries, List.map_cons, List.map_map]
  rfl

def entryColumns : Columns where
  id := some 0
  description := 1
  amount := 2
  category := some 3
  timestamp := 4

theorem ofHeader_columnNames : Columns.ofHeader columnNames = .ok entryColumns := by decide +kernel

theorem readTable_tableText (quoteNames : Bool) (lineBreak : Csv.LineBreak) (entries : List Entry) :
    readTable (Bytes.ofText (tableText quoteNames lineBreak entries)) =
      .ok (.ofRows (entryColumns.rows (entries.map Entry.cells))) :=
  ofTable_eq_ok_iff.2 ⟨columnNames, entries.map Entry.cells, entryColumns,
    ofFile_tableText quoteNames lineBreak entries, ofHeader_columnNames, rfl⟩

/-! Listings. -/

namespace Entry

/-- The amount may be written as a number instead of a text. -/
def members (e : Entry) (bare : Bool) : List (String × List Char) :=
  [("id", (Value.orNull (fun i : Int64 => .ofInt i.toInt) e.id).compact),
    ("description", stringText e.description),
    ("amount", if bare then e.amount.toList else stringText e.amount),
    ("category", (Value.orNull .string e.category).compact),
    ("timestamp", stringText e.timestamp)]

end Entry

/-- Each row comes with whether its amount is a number. -/
def listingText (entries : List (Entry × Bool)) : String :=
  String.ofList (arrayText (entries.map fun e => objectText (e.1.members e.2)))

namespace Entry

section

variable (e : Entry) (bare : Bool)

def idNode : Node := e.id.elim .null fun i => .ofInt i.toInt

def categoryNode : Node := e.category.elim .null .ofText

def amountNode : Node :=
  if bare then .number ((readNumeral e.amount.toList).map (·.1)) else .ofText e.amount

def node : Node :=
  .object (.ofList [("id", e.idNode), ("description", .ofText e.description),
    ("amount", e.amountNode bare), ("category", e.categoryNode), ("timestamp", .ofText e.timestamp)])

def listedAmount : ListedAmount :=
  if bare then .number ((readAmount? e.amount).getD 0.0) else .text e.amount

def listedRow : ListedRow where
  id := e.id
  description := e.description
  amount := e.listedAmount bare
  category := e.category
  timestamp := e.timestamp

theorem whole_node : (e.node bare).Whole := by
  apply whole_ofMembers
  simp only [List.forall_mem_cons]
  refine ⟨?_, trivial, ?_, ?_, trivial, List.forall_mem_nil _⟩
  · unfold idNode
    cases e.id <;> exact trivial
  · unfold amountNode
    cases bare <;> exact trivial
  · unfold categoryNode
    cases e.category <;> exact trivial

theorem spelledBy_idNode :
    e.idNode.SpelledBy (Value.orNull (fun i : Int64 => .ofInt i.toInt) e.id).compact := by
  unfold idNode
  cases e.id with
  | none => exact Node.spelledBy_null
  | some i => exact Node.spelledBy_ofInt i.toInt

theorem spelledBy_categoryNode :
    e.categoryNode.SpelledBy (Value.orNull .string e.category).compact := by
  unfold categoryNode
  cases e.category with
  | none => exact Node.spelledBy_null
  | some category => exact Node.spelledBy_ofText category

end

section

variable {e : Entry} {bare : Bool} (isNumber : bare = true → IsNumberText e.amount)

include isNumber

theorem spelledBy_amountNode :
    (e.amountNode bare).SpelledBy (if bare then e.amount.toList else stringText e.amount) := by
  cases bare with
  | false => exact Node.spelledBy_ofText e.amount
  | true =>
    obtain ⟨whole, fraction, plain, text, -⟩ := isNumber rfl
    intro rest ends
    have read := plain.readNumeral_eq
    simp only [amountNode, if_true, text, read]
    exact plain.lexemes_numberText ends

theorem spelledBy_node : (e.node bare).SpelledBy (objectText (e.members bare)) := by
  apply spelledBy_objectText
  refine .cons ⟨rfl, e.spelledBy_idNode⟩ (.cons ⟨rfl, Node.spelledBy_ofText _⟩
    (.cons ⟨rfl, spelledBy_amountNode isNumber⟩ (.cons ⟨rfl, e.spelledBy_categoryNode⟩
      (.cons ⟨rfl, Node.spelledBy_ofText _⟩ .nil))))

theorem ofJson_amountNode :
    ListedAmount.ofJson (e.amountNode bare) = .ok (e.listedAmount bare) := by
  cases bare with
  | false => exact ofJson_ofText e.amount
  | true =>
    obtain ⟨whole, fraction, plain, text, finite⟩ := isNumber rfl
    obtain ⟨number, read, float⟩ := readFloat_read_of finite
    have amount := plain.readAmount?_eq text
    simp only [amountNode, listedAmount, if_true, text, plain.readNumeral_eq, amount]
    exact ofJson_number read float

theorem ofJson_node : ListedRow.ofJson (e.node bare) = .ok (e.listedRow bare) := by
  have id : e.idNode.optional Node.int64 = .ok e.id := by
    unfold idNode
    cases e.id with
    | none => rfl
    | some i => exact Node.optional_int64 i
  have category : e.categoryNode.optional Node.text = .ok e.category := by
    unfold categoryNode
    cases e.category with
    | none => rfl
    | some category => exact Node.optional_text category
  change ListedRow.ofMembers _ = _
  rw [ListedRow.ofMembers, Members.foldRead_ofList]
  simp only [List.foldlM_cons, List.foldlM_nil, ListedRow.Draft.put, once, id, category,
    Node.text_ofText, ofJson_amountNode isNumber]
  rfl

end

end Entry

/-- Blanks may stand between the words of the listing. -/
theorem readListing_listingText {entries : List (Entry × Bool)}
    (isNumber : ∀ e ∈ entries, e.2 = true → IsNumberText e.1.amount) {text : String}
    (words : lexemes text.toList = lexemes (listingText entries).toList) :
    readListing text = .ok (ofListing (entries.map fun e => e.1.listedRow e.2)) := by
  have whole : (Node.array (.ofList (entries.map fun e => e.1.node e.2))).Whole := by
    apply whole_ofList
    rintro n member
    obtain ⟨e, -, rfl⟩ := List.mem_map.1 member
    exact e.1.whole_node e.2
  have spelled : lexemes text.toList =
      (Node.array (.ofList (entries.map fun e => e.1.node e.2))).words := by
    have array : (Node.array (.ofList (entries.map fun e => e.1.node e.2))).SpelledBy
        (arrayText (entries.map fun e => objectText (e.1.members e.2))) := by
      apply spelledBy_arrayText
      rw [List.forall₂_map_left_iff, List.forall₂_map_right_iff, List.forall₂_same]
      exact fun e member => Entry.spelledBy_node (isNumber e member)
    have alone := array [] (by rintro c ⟨⟩)
    rw [List.append_nil] at alone
    rw [words, listingText, String.toList_ofList, alone, lexemes, List.append_nil]
  refine readListing_eq_ok_iff.2 ⟨_, ?_, rfl⟩
  rw [readText_eq whole spelled]
  apply Items.mapRead_ofList
  rw [List.forall₂_map_left_iff, List.forall₂_map_right_iff, List.forall₂_same]
  exact fun e member => Entry.ofJson_node (isNumber e member)

/-- Nothing else of a row makes a difference to its record. -/
theorem RawRow.toOption_toRecord_congr {row row' : RawRow} (position : Nat) (id : row.id = row'.id)
    (description : row.description = row'.description)
    (amount : row.amount.or (readAmount? row.amountText) =
      row'.amount.or (readAmount? row'.amountText))
    (category : categoryOf row.category = categoryOf row'.category)
    (timestamp : row.timestamp = row'.timestamp) :
    (row.toRecord position).toOption = (row'.toRecord position).toOption := by
  have same (t : Transaction) : row.toRecord position = .ok t ↔ row'.toRecord position = .ok t := by
    simp only [toRecord_eq_ok_iff, readAmount_eq_ok_iff, id, description, amount, category, timestamp]
  cases outcome : row.toRecord position with
  | ok t => rw [(same t).1 outcome]
  | error event =>
    cases outcome' : row'.toRecord position with
    | ok t => rw [(same t).2 outcome'] at outcome; cases outcome
    | error event' => rfl

theorem readId?_idText (id : Option Int64) : readId? (idText id) = id := by
  cases id with
  | none => rfl
  | some i =>
    have bounds := isInt64_toInt i
    have digits : (Nat.toDigits 10 i.toInt.natAbs).all Char.isDigit = true :=
      List.all_eq_true.2 Decimal.isDigit_of_mem_toDigits
    have size : (if i.toInt < 0 then -(i.toInt.natAbs : Int) else i.toInt.natAbs) = i.toInt := by
      split <;> omega
    rw [idText, Option.elim, readId?, String.toList_ofList, (Decimal.isTrimmed_intText _).trim_eq,
      Decimal.sign_intText]
    simp only [digits, List.isEmpty_eq_false_iff.2 Nat.toDigits_ne_nil, Nat.ofDigitChars_ten_toDigits,
      decide_eq_true_eq, size, bounds, Int64.ofInt_toInt]
    rfl

theorem readAmount?_blank {s : String} (blank : Text.isBlankText s = true) : readAmount? s = none := by
  rw [readAmount?, Text.trim_eq_nil_iff.2 blank]
  rfl

theorem categoryOf_getD (category : Option String) :
    categoryOf (some (category.getD "")) = categoryOf category := by
  cases category with
  | none => decide +kernel
  | some category => rfl

namespace Entry

variable {e : Entry} {bare : Bool} (isNumber : bare = true → IsNumberText e.amount)

include isNumber

theorem or_listedAmount :
    (e.listedRow bare).raw.amount.or (readAmount? (e.listedRow bare).raw.amountText) =
      readAmount? e.amount := by
  cases bare with
  | false => rfl
  | true =>
    obtain ⟨whole, fraction, plain, text, -⟩ := isNumber rfl
    have amount := plain.readAmount?_eq text
    simp [listedRow, listedAmount, ListedRow.raw, amount]

/-- A row of blank cells has no amount, so it is left out of a listing as well. -/
theorem record?_fate (position : Nat) :
    (entryColumns.fate e.cells position).record? =
      ((e.listedRow bare).raw.toRecord position).toOption := by
  have same : ((entryColumns.row e.cells).toRecord position).toOption =
      ((e.listedRow bare).raw.toRecord position).toOption := by
    apply RawRow.toOption_toRecord_congr
    · exact readId?_idText e.id
    · rfl
    · exact (or_listedAmount isNumber).symm
    · exact categoryOf_getD e.category
    · rfl
  rw [← same, Columns.fate]
  by_cases blank : isBlankRecord e.cells = true
  · have noAmount : readAmount? e.amount = none :=
      readAmount?_blank (isBlankRecord_iff.1 blank e.amount (by simp [cells]))
    rw [if_pos blank]
    cases outcome : (entryColumns.row e.cells).toRecord position with
    | error event => rfl
    | ok t =>
      obtain ⟨amount, -, read, -, -⟩ := RawRow.toRecord_eq_ok_iff.1 outcome
      have found : readAmount? e.amount = some amount := (RawRow.readAmount_eq_ok_iff.1 read).1
      rw [noAmount] at found
      cases found
  · rw [if_neg blank, Fate.record?_ofOutcome]

end Entry

/-- Whatever the rows hold, and whichever of their amounts a listing gives as numbers. -/
theorem readTable_readListing_agree (entries : List (Entry × Bool))
    (isNumber : ∀ e ∈ entries, e.2 = true → IsNumberText e.1.amount) (quoteNames : Bool)
    (lineBreak : Csv.LineBreak) :
    ∃ table listing,
      readTable (Bytes.ofText (tableText quoteNames lineBreak (entries.map (·.1)))) = .ok table ∧
      (∀ text : String, lexemes text.toList = lexemes (listingText entries).toList →
        readListing text = .ok listing) ∧
      listing.records = table.records := by
  refine ⟨_, _, readTable_tableText quoteNames lineBreak _,
    fun text words => readListing_listingText isNumber words, ?_⟩
  rw [(accounts_ofListing _).records, records_ofRows_rows, Columns.fates, List.map_map,
    List.zipIdx_map, List.zipIdx_map, List.filterMap_map, List.filterMap_map, List.filterMap_map,
    List.filterMap_map]
  apply List.filterMap_congr
  rintro ⟨e, position⟩ member
  have inEntries := List.fst_mem_of_mem_zipIdx member
  exact ((Fate.record?_ofOutcome _).trans (Entry.record?_fate (isNumber e inEntries) position).symm)

/-- A description with a quote, a comma and a line break, and a row of empty cells. -/
theorem readTable_readListing_agree_quoted :
    let entries : List (Entry × Bool) := [
      (⟨some 7, "Caf\u00e9 \"Noir\",\n2 cups ", "12.50", none, "2026-02-18T09:30:00"⟩, true),
      (⟨none, "", "", some " ", ""⟩, false),
      (⟨none, "Tea", "$1,000", some " Food ", "2026-02-19"⟩, false)]
    (∀ e ∈ entries, e.2 = true → IsNumberText e.1.amount) ∧ ∃ table listing,
      readTable (Bytes.ofText (tableText false .returnFeed (entries.map (·.1)))) = .ok table ∧
      readListing (listingText entries) = .ok listing ∧ listing.records = table.records ∧
      table.records.map (·.id) = [7, 3] := by
  intro entries
  have isNumber : ∀ e ∈ entries, e.2 = true → IsNumberText e.1.amount := by
    simp only [entries, List.forall_mem_cons]
    refine ⟨fun _ => ?_, nofun, nofun, List.forall_mem_nil _⟩
    refine ⟨['1', '2'], ['5', '0'], ⟨List.all_eq_true.1 rfl, List.all_eq_true.1 rfl, by decide, ?_⟩, rfl, by decide +kernel⟩
    rintro more ⟨⟩
  obtain ⟨table, listing, read, listed, same⟩ :=
    readTable_readListing_agree entries isNumber false .returnFeed
  have ids : (readTable (Bytes.ofText (tableText false .returnFeed (entries.map (·.1))))).toOption.map
      (fun found => found.records.map (·.id)) = some [7, 3] := by decide +kernel
  rw [read] at ids
  exact ⟨isNumber, table, listing, read, listed _ rfl, same, Option.some.inj ids⟩

end Outlay.Export
