import Mathlib.Data.List.Find
import Mathlib.Data.List.InsertIdx
import Mathlib.Logic.Relation
import Outlay.Proofs.Export.Fate
import Outlay.Proofs.Text.Case
import Outlay.Proofs.Text.Trim

/-!
# Tables rearranged and extended

A row is read from the pairs of names and cells in its line. Where at most one column has each of the
names, it does not matter in which order the pairs stand, nor what stands under other names.
-/

namespace Outlay.Export

/-- The columns that are read, by the names that each may have. -/
def roles : List (List String) := [["description"], ["amount"], ["timestamp", "date"], ["id"], ["category"]]

def isRole (names : List String) (name : String) : Bool := names.any (isNamed name)

structure Sheet where
  header : List String
  records : List (List String)
  deriving DecidableEq

namespace Sheet

/-- Each line is as long as the header, and no two columns compete for a name. -/
structure WellFormed (sheet : Sheet) : Prop where
  rectangular : ∀ record ∈ sheet.records, record.length = sheet.header.length
  description : sheet.header.countP (isRole ["description"]) = 1
  amount : sheet.header.countP (isRole ["amount"]) = 1
  timestamp : sheet.header.countP (isRole ["timestamp", "date"]) = 1
  id : sheet.header.countP (isRole ["id"]) ≤ 1
  category : sheet.header.countP (isRole ["category"]) ≤ 1

/-- The cells of a file. -/
def table (sheet : Sheet) : List (List Bytes) := (sheet.header :: sheet.records).map (·.map Bytes.ofText)

/-- The cells in the given order of their places. -/
def arrange (places : List Nat) (line : List String) : List String := places.map (line.getD · "")

/-- The name in another case and with blanks around it. -/
def Respelled (name name' : String) : Prop :=
  ∃ front middle back : List Char, name'.toList = front ++ middle ++ back ∧
    (∀ c ∈ front, Text.isBlank c = true) ∧ (∀ c ∈ back, Text.isBlank c = true) ∧
    Text.foldCase middle = Text.foldCase name.toList

/-- The columns in another order, with their names spelled differently, or with one column more that has
none of the names. A blank line must stay blank, so a sheet with such lines is not widened. -/
inductive Edit : Sheet → Sheet → Prop
  | permute {header : List String} {places : List Nat} (records : List (List String)) :
      places.Perm (List.range header.length) →
      Edit ⟨header, records⟩ ⟨arrange places header, records.map (arrange places)⟩
  | respell {header header' : List String} (records : List (List String)) :
      List.Forall₂ Respelled header header' → Edit ⟨header, records⟩ ⟨header', records⟩
  | widen {header : List String} {records : List (List String)} {place : Nat} {name : String}
      {cells : List String} : place ≤ header.length → (∀ names ∈ roles, isRole names name = false) →
      cells.length = records.length → (∀ record ∈ records, isBlankRecord record = false) →
      Edit ⟨header, records⟩ ⟨header.insertIdx place name,
        (records.zip cells).map fun row => row.1.insertIdx place row.2⟩

end Sheet

/-! Lines of named cells. -/

/-- The cells of a line with the names of their columns. -/
abbrev Line := List (String × String)

namespace Line

def cell? (names : List String) (line : Line) : Option String :=
  (line.find? fun c => isRole names c.1).map (·.2)

def row (line : Line) : RawRow where
  id := (line.cell? ["id"]).bind readId?
  description := (line.cell? ["description"]).getD ""
  amountText := (line.cell? ["amount"]).getD ""
  category := line.cell? ["category"]
  timestamp := (line.cell? ["timestamp", "date"]).getD ""

def fate (line : Line) (position : Nat) : Fate :=
  if line.all fun c => Text.isBlankText c.2 then .blank
  else .ofOutcome (line.row.toRecord position)

theorem column?_eq (header names : List String) : column? header names = header.findIdx? (isRole names) := rfl

theorem cell?_zip (names : List String) {header record : List String}
    (length : record.length = header.length) :
    cell? names (header.zip record) = (column? header names).map (cell record) := by
  induction header generalizing record with
  | nil => rfl
  | cons name header ih =>
    obtain ⟨c, record, rfl⟩ := List.exists_cons_of_length_eq_add_one length
    have tail := ih (Nat.succ.inj length)
    rw [column?_eq] at tail ⊢
    rw [cell?, List.zip_cons_cons, List.find?_cons, List.findIdx?_cons]
    cases isRole names name with
    | true => rfl
    | false =>
      rw [cell?] at tail
      simp only [tail, Bool.false_eq_true, if_false, Option.map_map]
      rfl

theorem all_zip {header record : List String} (length : record.length = header.length) :
    (header.zip record).all (fun c => Text.isBlankText c.2) = isBlankRecord record := by
  have cells : (header.zip record).map (·.2) = record := List.map_snd_zip (Nat.le_of_eq length)
  rw [isBlankRecord, ← cells, List.all_map, cells]
  rfl

end Line

/-- A line as long as the header is read from its names and cells. -/
theorem fate_zip {header record : List String} {columns : Columns}
    (named : Columns.ofHeader header = .ok columns) (length : record.length = header.length) :
    Line.fate (header.zip record) = columns.fate record := by
  obtain ⟨description, amount, timestamp, id, category⟩ := ofHeader_eq_ok_iff.1 named
  have row : Line.row (header.zip record) = columns.row record := by
    simp only [Line.row, Columns.row, Line.cell?_zip _ length, description, amount, timestamp, id, category,
      Option.map_some, Option.getD_some, Option.bind_map]
    rfl
  funext position
  rw [Line.fate, Columns.fate, row, Line.all_zip length]

namespace Line

theorem fate_congr {line line' : Line} (cells : ∀ names ∈ roles, line.cell? names = line'.cell? names)
    (blank : line.all (fun c => Text.isBlankText c.2) = line'.all fun c => Text.isBlankText c.2) :
    line.fate = line'.fate := by
  have row : line.row = line'.row := by
    simp only [roles, List.forall_mem_cons] at cells
    obtain ⟨description, amount, timestamp, id, category, -⟩ := cells
    simp only [Line.row, description, amount, timestamp, id, category]
  funext position
  rw [fate, fate, row, blank]

theorem cell?_of_perm {line line' : Line} {names : List String}
    (single : line.countP (fun c => isRole names c.1) ≤ 1) (perm : line.Perm line') :
    line.cell? names = line'.cell? names := by
  refine congrArg (Option.map (·.2)) (List.find?_eq_find?_of_perm perm ?_)
  rintro c ⟨member, named⟩ c' ⟨member', named'⟩
  have found : c ∈ line.filter fun c => isRole names c.1 := List.mem_filter.2 ⟨member, named⟩
  have found' : c' ∈ line.filter fun c => isRole names c.1 := List.mem_filter.2 ⟨member', named'⟩
  rw [List.countP_eq_length_filter] at single
  cases filtered : line.filter fun c => isRole names c.1 with
  | nil =>
    rw [filtered] at found
    cases found
  | cons d rest =>
    rw [filtered] at found found' single
    obtain rfl : rest = [] := List.eq_nil_of_length_eq_zero (Nat.le_zero.1 (Nat.le_of_succ_le_succ single))
    exact (List.mem_singleton.1 found).trans (List.mem_singleton.1 found').symm

theorem fate_of_perm {line line' : Line}
    (single : ∀ names ∈ roles, line.countP (fun c => isRole names c.1) ≤ 1) (perm : line.Perm line') :
    line.fate = line'.fate :=
  fate_congr (fun names role => cell?_of_perm (single names role) perm) perm.all_eq

theorem fate_cons {name c : String} {line : Line} (unrelated : ∀ names ∈ roles, isRole names name = false)
    (filled : line.all (fun c => Text.isBlankText c.2) = false) :
    fate ((name, c) :: line) = line.fate := by
  apply fate_congr
  · intro names role
    have passed := unrelated names role
    simp only [cell?, List.find?_cons, passed]
  · rw [List.all_cons, filled, Bool.and_false]

end Line

namespace Sheet

def lines (sheet : Sheet) : List Line := sheet.records.map (sheet.header.zip ·)

def fates (sheet : Sheet) : List Fate :=
  ((sheet.lines.map Line.fate).zipIdx 1).map fun row => row.1 row.2

theorem Respelled.isNamed_eq {name name' : String} (respelled : Respelled name name') (wanted : String) :
    isNamed name' wanted = isNamed name wanted := by
  obtain ⟨front, middle, back, spelled, blank, blank', same⟩ := respelled
  have folded (s : List Char) : (Text.trim s).map Char.toLower = Text.trim (Text.foldCase s) :=
    (Text.trim_foldCase s).symm
  rw [isNamed, isNamed, spelled, Text.trim_append_right blank', Text.trim_append_left blank, folded, folded,
    same]

theorem isRole_respelled {name name' : String} (respelled : Respelled name name') (names : List String) :
    isRole names name' = isRole names name := by
  unfold isRole
  congr 1
  funext wanted
  exact respelled.isNamed_eq wanted

theorem countP_respelled {header header' : List String} (respelled : List.Forall₂ Respelled header header')
    (names : List String) : header'.countP (isRole names) = header.countP (isRole names) := by
  induction respelled with
  | nil => rfl
  | cons first rest ih => rw [List.countP_cons, List.countP_cons, ih, isRole_respelled first]

theorem column?_respelled {header header' : List String} (respelled : List.Forall₂ Respelled header header')
    (names : List String) : column? header' names = column? header names := by
  rw [Line.column?_eq, Line.column?_eq]
  induction respelled with
  | nil => rfl
  | cons first rest ih => rw [List.findIdx?_cons, List.findIdx?_cons, ih, isRole_respelled first]

theorem arrange_range {line : List String} {width : Nat} (length : line.length = width) :
    arrange (List.range width) line = line := by
  subst length
  exact List.ext_getElem (by simp [arrange]) fun i _ bound => by simp [arrange, bound]

theorem arrange_perm {line : List String} {places : List Nat} {width : Nat}
    (perm : places.Perm (List.range width)) (length : line.length = width) :
    (arrange places line).Perm line := by
  have moved := perm.map (line.getD · "")
  rwa [← arrange, ← arrange, arrange_range length] at moved

theorem zip_arrange_perm {header record : List String} {places : List Nat}
    (perm : places.Perm (List.range header.length)) (length : record.length = header.length) :
    ((arrange places header).zip (arrange places record)).Perm (header.zip record) := by
  have moved := perm.map fun place => (header.getD place "", record.getD place "")
  rw [← List.zip_map', ← List.zip_map', ← arrange, ← arrange, ← arrange, ← arrange, arrange_range rfl,
    arrange_range length] at moved
  exact moved

theorem WellFormed.countP_le {sheet : Sheet} (wellFormed : sheet.WellFormed) :
    ∀ names ∈ roles, sheet.header.countP (isRole names) ≤ 1 := by
  simp only [roles, List.forall_mem_cons]
  exact ⟨wellFormed.description.le, wellFormed.amount.le, wellFormed.timestamp.le, wellFormed.id,
    wellFormed.category, List.forall_mem_nil _⟩

theorem Edit.countP_eq {sheet sheet' : Sheet} (edit : Edit sheet sheet') :
    ∀ names ∈ roles, sheet'.header.countP (isRole names) = sheet.header.countP (isRole names) := by
  intro names role
  cases edit with
  | @permute header places records perm => exact (arrange_perm perm rfl).countP_eq _
  | @respell header header' records respelled => exact countP_respelled respelled names
  | @widen header records place name cells inside unrelated each filled =>
    rw [(List.perm_insertIdx name header inside).countP_eq,
      List.countP_cons_of_neg (Bool.eq_false_iff.1 (unrelated names role))]

theorem Edit.rectangular {sheet sheet' : Sheet} (edit : Edit sheet sheet')
    (rectangular : ∀ record ∈ sheet.records, record.length = sheet.header.length) :
    ∀ record ∈ sheet'.records, record.length = sheet'.header.length := by
  cases edit with
  | permute records perm => simp [arrange]
  | respell records respelled =>
    intro record member
    exact (rectangular record member).trans respelled.length_eq
  | @widen header records place name cells inside unrelated each filled =>
    intro record member
    obtain ⟨⟨record, c⟩, paired, rfl⟩ := List.mem_map.1 member
    have length : record.length = header.length := rectangular record (List.of_mem_zip paired).1
    rw [List.length_insertIdx_of_le_length inside, List.length_insertIdx_of_le_length (length ▸ inside),
      length]

theorem Edit.wellFormed {sheet sheet' : Sheet} (edit : Edit sheet sheet') (wellFormed : sheet.WellFormed) :
    sheet'.WellFormed := by
  have named := edit.countP_eq
  simp only [roles, List.forall_mem_cons] at named
  obtain ⟨description, amount, timestamp, id, category, -⟩ := named
  exact ⟨edit.rectangular wellFormed.rectangular, description.trans wellFormed.description,
    amount.trans wellFormed.amount, timestamp.trans wellFormed.timestamp, id.trans_le wellFormed.id,
    category.trans_le wellFormed.category⟩

theorem countP_zip {header record : List String} (length : record.length = header.length)
    (names : List String) :
    (header.zip record).countP (fun c => isRole names c.1) = header.countP (isRole names) := by
  have first : (header.zip record).map (·.1) = header := List.map_fst_zip (Nat.le_of_eq length.symm)
  conv_rhs => rw [← first, List.countP_map]
  rfl

theorem zip_insertIdx (header record : List String) (place : Nat) (name c : String) :
    (header.insertIdx place name).zip (record.insertIdx place c) =
      (header.zip record).insertIdx place (name, c) := by
  induction place generalizing header record with
  | zero => rfl
  | succ place ih =>
    cases header with
    | nil => rfl
    | cons first header =>
      cases record with
      | nil => rfl
      | cons first' record =>
        rw [List.insertIdx_succ_cons, List.insertIdx_succ_cons, List.zip_cons_cons, ih, List.zip_cons_cons,
          List.insertIdx_succ_cons]

theorem fate_widened {header record : List String} {place : Nat} {name c : String}
    (length : record.length = header.length) (inside : place ≤ header.length)
    (unrelated : ∀ names ∈ roles, isRole names name = false) (filled : isBlankRecord record = false)
    (single : ∀ names ∈ roles, (header.zip record).countP (fun c => isRole names c.1) ≤ 1) :
    Line.fate ((header.insertIdx place name).zip (record.insertIdx place c)) =
      Line.fate (header.zip record) := by
  have insideLine : place ≤ (header.zip record).length := by rwa [List.length_zip, length, Nat.min_self]
  have moved := List.perm_insertIdx (name, c) (header.zip record) insideLine
  have alone : ∀ names ∈ roles, ((name, c) :: header.zip record).countP (fun c => isRole names c.1) ≤ 1 := by
    intro names role
    have passed := unrelated names role
    simp only [List.countP_cons, passed, Bool.false_eq_true, if_false, Nat.add_zero]
    exact single names role
  -- The new cell may as well stand in front, where no search for a name stops at it.
  rw [zip_insertIdx, ← Line.fate_of_perm alone moved.symm,
    Line.fate_cons unrelated ((Line.all_zip length).trans filled)]

/-- An edit changes no row. -/
theorem Edit.map_fate_lines {sheet sheet' : Sheet} (edit : Edit sheet sheet')
    (wellFormed : sheet.WellFormed) :
    sheet'.lines.map Line.fate = sheet.lines.map Line.fate := by
  have single (record : List String) (length : record.length = sheet.header.length) :
      ∀ names ∈ roles, (sheet.header.zip record).countP (fun c => isRole names c.1) ≤ 1 :=
    fun names role => (countP_zip length names).le.trans (wellFormed.countP_le names role)
  have rectangular := wellFormed.rectangular
  cases edit with
  | @permute header places records perm =>
    rw [lines, lines, List.map_map, List.map_map, List.map_map]
    refine List.map_congr_left fun record member => ?_
    have length := rectangular record member
    exact (Line.fate_of_perm (single record length) (zip_arrange_perm perm length).symm).symm
  | @respell header header' records respelled =>
    rw [lines, lines, List.map_map, List.map_map]
    refine List.map_congr_left fun record member => ?_
    have length := rectangular record member
    have length' := length.trans respelled.length_eq
    apply Line.fate_congr
    · intro names _
      rw [Line.cell?_zip names length', Line.cell?_zip names length, column?_respelled respelled]
    · exact (Line.all_zip length').trans (Line.all_zip length).symm
  | @widen header records place name cells inside unrelated each filled =>
    have first : (records.zip cells).map (·.1) = records := List.map_fst_zip (Nat.le_of_eq each.symm)
    rw [lines, lines, List.map_map, List.map_map, List.map_map]
    conv_rhs => rw [← first, List.map_map]
    refine List.map_congr_left fun ⟨record, c⟩ paired => ?_
    have member := (List.of_mem_zip paired).1
    have length := rectangular record member
    exact fate_widened length inside unrelated (filled record member) (single record length)

theorem Edit.fates_eq {sheet sheet' : Sheet} (edit : Edit sheet sheet') (wellFormed : sheet.WellFormed) :
    sheet'.fates = sheet.fates := by
  rw [fates, fates, edit.map_fate_lines wellFormed]

theorem edits_keep {sheet sheet' : Sheet} (edits : Relation.ReflTransGen Edit sheet sheet')
    (wellFormed : sheet.WellFormed) : sheet'.WellFormed ∧ sheet'.fates = sheet.fates := by
  induction edits with
  | refl => exact ⟨wellFormed, rfl⟩
  | tail _ edit ih => exact ⟨edit.wellFormed ih.1, (edit.fates_eq ih.1).trans ih.2⟩

theorem WellFormed.hasColumns {sheet : Sheet} (wellFormed : sheet.WellFormed) : HasColumns sheet.header := by
  have column {names : List String} (once : sheet.header.countP (isRole names) = 1) :
      HasColumn sheet.header names := by
    obtain ⟨name, member, named⟩ := List.countP_pos_iff.1 (Nat.lt_of_lt_of_eq Nat.zero_lt_one once.symm)
    exact ⟨name, member, List.any_eq_true.1 named⟩
  exact ⟨column wellFormed.description, column wellFormed.amount, column wellFormed.timestamp⟩

/-- The rows of a well-formed sheet have the fates that their names and cells give them. -/
theorem WellFormed.accounts {sheet : Sheet} (wellFormed : sheet.WellFormed) {file : Bytes}
    (cells : Csv.ofFile file = sheet.table) : ∃ found, readTable file = .ok found ∧
      found.Accounts sheet.records (fun record => ∀ c ∈ record, Text.isBlankText c = true)
        (idOf sheet.header) sheet.fates := by
  obtain ⟨columns, named⟩ := exists_ofHeader_iff.2 wellFormed.hasColumns
  have read := ofTable_eq_ok_iff.2 ⟨sheet.header, sheet.records, columns, cells, named, rfl⟩
  have fates : sheet.fates = columns.fates sheet.records := by
    have each : sheet.lines.map Line.fate = sheet.records.map columns.fate := by
      rw [lines, List.map_map]
      exact List.map_congr_left fun record member => fate_zip named (wellFormed.rectangular record member)
    rw [Sheet.fates, each, List.zipIdx_map, List.map_map]
    rfl
  refine ⟨_, read, ?_⟩
  rw [fates]
  exact accounts_of_settles (fun line => settles_fate named line.1 line.2) (records_ofRows_rows _ _)
    (events_ofRows_rows _ _)

end Sheet

/-- The order of the columns, the spelling of their names and further columns do not matter. -/
theorem readTable_of_edits {sheet sheet' : Sheet} (wellFormed : sheet.WellFormed)
    (edits : Relation.ReflTransGen Sheet.Edit sheet sheet') {file file' : Bytes}
    (cells : Csv.ofFile file = sheet.table) (cells' : Csv.ofFile file' = sheet'.table) :
    ∃ found fates, readTable file = .ok found ∧ readTable file' = .ok found ∧
      found.Accounts sheet.records (fun record => ∀ c ∈ record, Text.isBlankText c = true)
        (idOf sheet.header) fates ∧
      found.Accounts sheet'.records (fun record => ∀ c ∈ record, Text.isBlankText c = true)
        (idOf sheet'.header) fates := by
  obtain ⟨wellFormed', same⟩ := Sheet.edits_keep edits wellFormed
  obtain ⟨found, read, accounts⟩ := wellFormed.accounts cells
  obtain ⟨found', read', accounts'⟩ := wellFormed'.accounts cells'
  rw [same] at accounts'
  obtain rfl : found = found' := by
    have records := accounts.records.trans accounts'.records.symm
    have events := accounts.events.trans accounts'.events.symm
    cases found
    cases found'
    exact congrArg₂ Import.mk records events
  exact ⟨found, sheet.fates, read, read', accounts, accounts'⟩

end Outlay.Export
