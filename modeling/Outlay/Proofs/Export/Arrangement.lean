import Outlay.Proofs.Export.Columns
import Outlay.Proofs.Export.Members
import Outlay.Proofs.Json.Fields

/-!
# What an import does not look at

The order of columns and members, the spelling of the names of columns, and what stands under names that
nobody asks for.
-/

namespace Outlay.Json

/-! Written values. -/

theorem Node.isValue_ofFloat (x : Float) : (ofFloat x).IsValue := by
  unfold ofFloat
  split
  · exact ⟨_, rfl⟩
  · trivial

mutual

theorem Node.isValue_ofValue : (v : Value) → (Node.ofValue v).IsValue
  | .null | .bool _ => trivial
  | .number (.integer _) => ⟨_, rfl⟩
  | .number (.float x) => Node.isValue_ofFloat x
  | .string _ => rfl
  | .array items => Items.areValues_ofValues items
  | .object members => Members.areValues_ofValues members

theorem Items.areValues_ofValues : (items : List Value) → (Items.ofValues items).AreValues
  | [] => rfl
  | item :: rest => ⟨Node.isValue_ofValue item, Items.areValues_ofValues rest⟩

theorem Members.areValues_ofValues : (members : List (String × Value)) → (Members.ofValues members).AreValues
  | [] => rfl
  | (_, value) :: rest => ⟨rfl, Node.isValue_ofValue value, Members.areValues_ofValues rest⟩

end

theorem lexemes_compactText (v : Value) : lexemes v.compactText.toList = (Node.ofValue v).words := by
  have alone := spelledBy_compact v [] (by rintro c ⟨⟩)
  rw [List.append_nil, lexemes, List.append_nil] at alone
  rw [Value.compactText, String.toList_ofList, alone]

theorem Document.ofChars_compactText (v : Value) :
    Document.ofChars v.compactText.toList = ⟨.ofValue v, false⟩ :=
  ofChars_eq (Node.whole_ofValue v) (lexemes_compactText v)

def writtenMember (m : String × Value) : Key × Node := (.string (.ofText m.1), .ofValue m.2)

theorem Members.ofValues_eq (members : List (String × Value)) :
    Members.ofValues members = .ofKeys (members.map writtenMember) := by
  induction members with
  | nil => rfl
  | cons m members ih =>
    rw [Members.ofValues, ih]
    rfl

namespace Node.Edit

variable {known : List String}

theorem permuteWritten {members members' : List (String × Value)} (perm : members.Perm members') :
    Edit known (.ofValue (.object members)) (.ofValue (.object members')) := by
  rw [ofValue, ofValue, Members.ofValues_eq, Members.ofValues_eq]
  exact .permute (perm.map writtenMember)

theorem addWritten (front back : List (String × Value)) {name : String} (unknown : name ∉ known)
    (value : Value) : Edit known (.ofValue (.object (front ++ back)))
      (.ofValue (.object (front ++ (name, value) :: back))) := by
  rw [ofValue, ofValue, Members.ofValues_eq, Members.ofValues_eq, List.map_append, List.map_append,
    List.map_cons]
  exact .add _ _ (Key.name_ofText name) unknown (isValue_ofValue value)

theorem inWrittenMember (front back : List (String × Value)) (name : String) {value value' : Value}
    (edit : Edit known (.ofValue value) (.ofValue value')) :
    Edit known (.ofValue (.object (front ++ (name, value) :: back)))
      (.ofValue (.object (front ++ (name, value') :: back))) := by
  rw [ofValue, ofValue, Members.ofValues_eq, Members.ofValues_eq, List.map_append, List.map_append,
    List.map_cons, List.map_cons]
  exact .inMember _ _ _ edit

theorem inWrittenItem (front back : List Value) {value value' : Value}
    (edit : Edit known (.ofValue value) (.ofValue value')) :
    Edit known (.ofValue (.array (front ++ value :: back)))
      (.ofValue (.array (front ++ value' :: back))) := by
  rw [ofValue, ofValue, Items.ofValues_eq, Items.ofValues_eq, List.map_append, List.map_append,
    List.map_cons, List.map_cons]
  exact .inItem _ _ edit

end Node.Edit

end Outlay.Json

namespace Outlay.Export

open Json Relation

/-- Tables and listings are read as before when they are rearranged and extended, row by row. -/
theorem imports_ignore_arrangement :
    (∀ (sheet sheet' : Sheet) (file file' : Bytes), sheet.WellFormed →
      ReflTransGen Sheet.Edit sheet sheet' → Csv.ofFile file = sheet.table →
      Csv.ofFile file' = sheet'.table →
      ∃ found fates, readTable file = .ok found ∧ readTable file' = .ok found ∧
        found.Accounts sheet.records (fun record => ∀ c ∈ record, Text.isBlankText c = true)
          (idOf sheet.header) fates ∧
        found.Accounts sheet'.records (fun record => ∀ c ∈ record, Text.isBlankText c = true)
          (idOf sheet'.header) fates) ∧
    ∀ (text text' : String) (found : Import) (n : Node), readListing text = .ok found →
      ReflTransGen (Node.Edit ListedRow.fieldNames) (Document.ofChars text.toList).value n →
      lexemes text'.toList = n.words → readListing text' = .ok found :=
  ⟨fun _ _ _ _ wellFormed edits => readTable_of_edits wellFormed edits,
    fun _ _ _ _ read edits => readListing_of_edits read edits⟩

section Tea

def teaSheet : Sheet where
  header := ["Date", "AMOUNT", "description"]
  records := [["2026-01-01", "4", "Cafe"], ["2026-01-02", "x", "Tea"]]

def teaSheet' : Sheet where
  header := [" Description ", "note", "date", "amount"]
  records := [["Cafe", "", "2026-01-01", "4"], ["Tea", "hot", "2026-01-02", "x"]]

theorem wellFormed_teaSheet : teaSheet.WellFormed := by
  constructor <;> decide +kernel

theorem edits_teaSheet : ReflTransGen Sheet.Edit teaSheet teaSheet' := by
  have permuted : Sheet.Edit teaSheet ⟨["description", "Date", "AMOUNT"],
      [["Cafe", "2026-01-01", "4"], ["Tea", "2026-01-02", "x"]]⟩ :=
    @Sheet.Edit.permute teaSheet.header [2, 0, 1] teaSheet.records (by decide)
  have respelled : Sheet.Edit ⟨["description", "Date", "AMOUNT"],
      [["Cafe", "2026-01-01", "4"], ["Tea", "2026-01-02", "x"]]⟩ ⟨[" Description ", "date", "amount"],
        [["Cafe", "2026-01-01", "4"], ["Tea", "2026-01-02", "x"]]⟩ := by
    have padded : Sheet.Respelled "description" " Description " :=
      ⟨[' '], "Description".toList, [' '], by decide +kernel, List.forall_mem_singleton.2 rfl,
        List.forall_mem_singleton.2 rfl, by decide +kernel⟩
    have recased : Sheet.Respelled "Date" "date" :=
      ⟨[], "date".toList, [], by decide +kernel, List.forall_mem_nil _, List.forall_mem_nil _,
        by decide +kernel⟩
    have recased' : Sheet.Respelled "AMOUNT" "amount" :=
      ⟨[], "amount".toList, [], by decide +kernel, List.forall_mem_nil _, List.forall_mem_nil _,
        by decide +kernel⟩
    exact .respell _ (.cons padded (.cons recased (.cons recased' .nil)))
  have widened : Sheet.Edit ⟨[" Description ", "date", "amount"],
      [["Cafe", "2026-01-01", "4"], ["Tea", "2026-01-02", "x"]]⟩ teaSheet' :=
    @Sheet.Edit.widen [" Description ", "date", "amount"]
      [["Cafe", "2026-01-01", "4"], ["Tea", "2026-01-02", "x"]] 1 "note" ["", "hot"] (by decide)
      (by decide +kernel) (by decide) (by decide +kernel)
  exact .tail (.tail (.single permuted) respelled) widened

def teaFields : List (String × Value) :=
  [("description", .string "Tea"), ("amount", .string "2"), ("date", .string "2026-01-02")]

/-- A row of a listing with an object that nobody asks for. -/
def teaRow (more : List (String × Value)) : List (String × Value) := teaFields ++ [("more", .object more)]

def teaListing : Value := .array [.object (teaRow [("a", .null), ("b", .bool true)])]

def teaListing' : Value := .array [.object (("note", .array [.ofInt 1]) ::
  (teaRow [("b", .bool true), ("a", .null)]).reverse)]

theorem edits_teaListing :
    ReflTransGen (Node.Edit ListedRow.fieldNames) (.ofValue teaListing) (.ofValue teaListing') := by
  have inside : Node.Edit ListedRow.fieldNames (.ofValue teaListing)
      (.ofValue (.array [.object (teaRow [("b", .bool true), ("a", .null)])])) :=
    .inWrittenItem [] [] (.inWrittenMember teaFields [] "more" (.permuteWritten (.swap _ _ [])))
  have reversed : Node.Edit ListedRow.fieldNames
      (.ofValue (.array [.object (teaRow [("b", .bool true), ("a", .null)])]))
      (.ofValue (.array [.object (teaRow [("b", .bool true), ("a", .null)]).reverse])) :=
    .inWrittenItem [] [] (.permuteWritten (List.reverse_perm _).symm)
  have noted : Node.Edit ListedRow.fieldNames
      (.ofValue (.array [.object (teaRow [("b", .bool true), ("a", .null)]).reverse])) (.ofValue teaListing') :=
    .inWrittenItem [] [] (.addWritten [] _ (by decide) (.array [.ofInt 1]))
  exact .tail (.tail (.single inside) reversed) noted

theorem imports_ignore_arrangement_tea :
    let file := Bytes.ofText "Date,AMOUNT,description\n2026-01-01,4,Cafe\n2026-01-02,x,Tea\n"
    let file' := Bytes.ofText " Description ,note,date,amount\nCafe,,2026-01-01,4\nTea,hot,2026-01-02,x\n"
    (teaSheet.WellFormed ∧ ReflTransGen Sheet.Edit teaSheet teaSheet' ∧
      Csv.ofFile file = teaSheet.table ∧ Csv.ofFile file' = teaSheet'.table ∧
      ∃ found, readTable file = .ok found ∧ readTable file' = .ok found ∧
        found.records.map (·.id) = [1] ∧ found.events.map (·.row?) = [some 2]) ∧
    ReflTransGen (Node.Edit ListedRow.fieldNames) (Document.ofChars teaListing.compactText.toList).value
      (.ofValue teaListing') ∧ ∃ found, readListing teaListing.compactText = .ok found ∧
        readListing teaListing'.compactText = .ok found ∧ found.records.map (·.description) = ["Tea"] := by
  intro file file'
  have cells : Csv.ofFile file = teaSheet.table := by decide +kernel
  have cells' : Csv.ofFile file' = teaSheet'.table := by decide +kernel
  have answers : (readTable file).toOption.map (fun found =>
      (found.records.map (·.id), found.events.map (·.row?))) = some ([1], [some 2]) := by
    decide +kernel
  have listed : (readListing teaListing.compactText).toOption.map (fun found =>
      found.records.map (·.description)) = some ["Tea"] := by
    decide +kernel
  have edits : ReflTransGen (Node.Edit ListedRow.fieldNames)
      (Document.ofChars teaListing.compactText.toList).value (.ofValue teaListing') := by
    rw [Document.ofChars_compactText]
    exact edits_teaListing
  obtain ⟨table, fates, read, read', -, -⟩ := imports_ignore_arrangement.1 teaSheet teaSheet' file file'
    wellFormed_teaSheet edits_teaSheet cells cells'
  rw [read] at answers
  obtain ⟨ids, rows⟩ := Prod.mk.inj (Option.some.inj answers)
  obtain ⟨listing, parsed, descriptions⟩ := Option.map_eq_some_iff.1 listed
  have parsed := eq_ok_of_toOption parsed
  have parsed' := imports_ignore_arrangement.2 _ teaListing'.compactText listing _ parsed edits
    (lexemes_compactText teaListing')
  exact ⟨⟨wellFormed_teaSheet, edits_teaSheet, cells, cells', table, read, read', ids, rows⟩,
    edits, listing, parsed, parsed', descriptions⟩

end Tea

end Outlay.Export
