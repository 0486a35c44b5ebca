import Outlay.Proofs.Decimal.Float
import Outlay.Proofs.Export.Agreement
import Outlay.Proofs.Export.Reimport

/-!
# Records are well formed

A record has an amount that is not below zero, and texts without blanks around them. An amount is
infinite only if a text spells it with too many digits, and a zero has a sign only under a minus.
-/

namespace Outlay

open Binary64 Json Export

/-! Numbers in JSON are within the range of floats. -/

namespace Json

theorem Numeral.isInf_of_read {n : Numeral} {x : Float} (h : n.read = .ok (.float x)) :
    x.isInf = false := by
  have float {d : Decimal} (h : (if d.toFloat.isInf then .error .malformed
      else .ok (.float d.toFloat) : Except Fault Number) = .ok (.float x)) : x.isInf = false := by
    split at h
    next => cases h
    next bounded =>
      cases h
      exact Bool.eq_false_iff.2 bounded
  unfold read at h
  simp only at h
  split at h
  · split at h
    · cases h
    · exact float h
  · split at h
    · cases h
    · exact float h
  · exact float h

theorem Numeral.natAbs_lt_of_read {n : Numeral} {i : Int} (h : n.read = .ok (.integer i)) :
    i.natAbs < UInt64.size := by
  unfold read at h
  simp only at h
  split at h
  · split at h
    next small =>
      cases h
      exact small
    next => split at h <;> cases h
  · split at h
    next small =>
      cases h
      have bounds := isInt64_iff.1 (Bool.and_eq_true_iff.1 small).2
      change _ < 18446744073709551616
      omega
    next => split at h <;> cases h
  · split at h <;> cases h

theorem isFinite_toFloat_integer {i : Int} (h : i.natAbs < UInt64.size) :
    (Decimal.toFloat ⟨i < 0, i.natAbs, 0⟩).isFinite = true := by
  apply Decimal.isFinite_toFloat
  have small : (i.natAbs : ℚ) < 2 ^ (64 : ℤ) := by
    have : i.natAbs < 2 ^ 64 := h
    exact_mod_cast this
  change (i.natAbs * 10 ^ (0 : ℤ) : ℚ) < overflow
  rw [zpow_zero, mul_one]
  refine small.trans_le (le_trans ?_ two_zpow_le_overflow)
  exact zpow_le_zpow_right₀ (by norm_num) (by norm_num)

theorem Node.exists_read_of_value {room : Nat} {n : Node} {number : Number}
    (h : n.value room = .ok (.number number)) : ∃ numeral, Numeral.read numeral = .ok number := by
  cases n with
  | number m =>
    cases m with
    | error f => cases h
    | ok numeral =>
      refine ⟨numeral, ?_⟩
      simp only [Node.value, readNumber, Except.bind] at h
      cases read : numeral.read with
      | error f =>
        rw [read] at h
        cases h
      | ok found =>
        rw [read] at h
        cases h
        rfl
  | string s =>
    simp only [Node.value] at h
    cases read : s.read <;> rw [read] at h <;> cases h
  | array items =>
    simp only [Node.value] at h
    split at h
    · cases h
    · cases read : items.values (room - 1) <;> rw [read] at h <;> cases h
  | object members =>
    simp only [Node.value] at h
    split at h
    · cases h
    · cases read : members.values (room - 1) <;> rw [read] at h <;> cases h
  | null | bool | misspelt | broken => cases h

/-- What every step of a reader keeps holds of what it reads. -/
theorem Members.foldRead_induct {α : Type} {put : α → String → Node → Read α} {P : α → Prop}
    (step : ∀ {d name n d'}, P d → put d name n = .ok d' → P d') {d : α} :
    (members : Members) → {draft : α} → P draft → members.foldRead put draft = .ok d → P d
  | .done none, draft, start, h => by
    cases h
    exact start
  | .done (some f), _, _, h => by cases h
  | .member key value rest, draft, start, h => by
    obtain ⟨name, -, h⟩ := bind_eq_ok_iff.1 h
    obtain ⟨draft', put, h⟩ := bind_eq_ok_iff.1 h
    exact foldRead_induct step rest (step start put) h

theorem Items.exists_of_take {α : Type} {read : Node → Read α} {index : Nat} {expected : String}
    {items rest : Items} {a : α} (h : items.take read index expected = .ok (a, rest)) :
    ∃ n, read n = .ok a := by
  obtain ⟨next, found, h⟩ := bind_eq_ok_iff.1 h
  cases items with
  | done fault =>
    cases fault with
    | none =>
      cases found
      cases h
    | some f => cases found
  | item n others =>
    obtain ⟨a', read, same⟩ := bind_eq_ok_iff.1 found
    cases same
    cases h
    exact ⟨n, read⟩

theorem Items.exists_of_mem_mapRead {α : Type} {read : Node → Read α} :
    (items : Items) → {values : List α} → items.mapRead read = .ok values →
    ∀ a ∈ values, ∃ n, read n = .ok a
  | .done none, _, h, a, member => by
    cases h
    cases member
  | .done (some f), _, h, _, _ => by cases h
  | .item n rest, values, h, a, member => by
    obtain ⟨first, here, h⟩ := bind_eq_ok_iff.1 h
    obtain ⟨others, more, same⟩ := bind_eq_ok_iff.1 h
    cases same
    rcases List.mem_cons.1 member with rfl | member
    · exact ⟨n, here⟩
    · exact exists_of_mem_mapRead rest more a member

theorem Node.exists_of_mem_list {α : Type} {read : Node → Read α} {n : Node} {values : List α}
    (h : n.list read = .ok values) : ∀ a ∈ values, ∃ n, read n = .ok a := by
  cases n with
  | array items => exact items.exists_of_mem_mapRead h
  | _ =>
    obtain ⟨kind, -, failed⟩ := bind_eq_ok_iff.1 h
    cases failed

theorem exists_of_readText {α : Type} {read : Node → Read α} {text : String} {a : α}
    (h : readText read text = .ok a) : ∃ n, read n = .ok a :=
  ⟨_, (readText_eq_ok_iff.1 h).1⟩

end Json

namespace Export

theorem isInf_of_ofJson {n : Node} {x : Float} (h : ListedAmount.ofJson n = .ok (.number x)) :
    x.isInf = false := by
  unfold ListedAmount.ofJson at h
  obtain ⟨v, value, h⟩ := bind_eq_ok_iff.1 h
  cases v with
  | number number =>
    obtain ⟨numeral, read⟩ := Node.exists_read_of_value value
    cases number with
    | integer i =>
      cases h
      exact isInf_eq_false_of_isFinite (isFinite_toFloat_integer (Numeral.natAbs_lt_of_read read))
    | float y =>
      cases h
      exact Numeral.isInf_of_read read
  | _ => cases h

namespace ListedRow

/-- The amount is not infinite if it is given as a number. -/
def IsInRange (amount : ListedAmount) : Prop := ∀ x, amount = .number x → x.isInf = false

theorem isInRange_of_ofJson {n : Node} {amount : ListedAmount} (h : ListedAmount.ofJson n = .ok amount) :
    IsInRange amount := by
  rintro x rfl
  exact isInf_of_ofJson h

theorem isInRange_of_put {d d' : Draft} {name : String} {n : Node}
    (inRange : ∀ amount, d.amount = some amount → IsInRange amount) (h : d.put name n = .ok d') :
    ∀ amount, d'.amount = some amount → IsInRange amount := by
  unfold Draft.put at h
  split at h
  case h_3 =>
    obtain ⟨found, read, rfl⟩ := map_eq_ok_iff.1 h
    rintro amount rfl
    unfold once at read
    split at read
    · cases read
    · obtain ⟨amount', read, same⟩ := map_eq_ok_iff.1 read
      cases same
      exact isInRange_of_ofJson read
  all_goals
    obtain ⟨found, -, rfl⟩ := map_eq_ok_iff.1 h
    exact inRange

theorem isInRange_of_ofMembers {members : Members} {row : ListedRow} (h : ofMembers members = .ok row) :
    IsInRange row.amount := by
  obtain ⟨draft, read, h⟩ := bind_eq_ok_iff.1 h
  have inRange : ∀ amount, draft.amount = some amount → IsInRange amount := by
    refine Members.foldRead_induct isInRange_of_put members ?_ read
    rintro amount ⟨⟩
  obtain ⟨description, -, h⟩ := bind_eq_ok_iff.1 h
  obtain ⟨amount, given, h⟩ := bind_eq_ok_iff.1 h
  obtain ⟨timestamp, -, h⟩ := bind_eq_ok_iff.1 h
  cases h
  unfold need at given
  split at given
  next found =>
    cases given
    exact inRange _ found
  next => cases given

theorem isInRange_of_ofItems {items rest : Items} {row : ListedRow}
    (h : ofItems items = .ok (row, rest)) : IsInRange row.amount := by
  obtain ⟨⟨id, _⟩, -, h⟩ := bind_eq_ok_iff.1 h
  obtain ⟨⟨description, _⟩, -, h⟩ := bind_eq_ok_iff.1 h
  obtain ⟨⟨amount, _⟩, given, h⟩ := bind_eq_ok_iff.1 h
  obtain ⟨⟨category, _⟩, -, h⟩ := bind_eq_ok_iff.1 h
  obtain ⟨⟨timestamp, _⟩, -, h⟩ := bind_eq_ok_iff.1 h
  cases h
  obtain ⟨n, read⟩ := Items.exists_of_take given
  exact isInRange_of_ofJson read

theorem isInRange_of_structure {n : Node} {row : ListedRow} (h : ofJson n = .ok row) :
    IsInRange row.amount := by
  cases n with
  | array items =>
    obtain ⟨⟨row', rest⟩, read, h⟩ := bind_eq_ok_iff.1 h
    obtain ⟨-, -, h⟩ := bind_eq_ok_iff.1 h
    cases h
    exact isInRange_of_ofItems read
  | object members => exact isInRange_of_ofMembers h
  | _ =>
    obtain ⟨kind, -, failed⟩ := bind_eq_ok_iff.1 h
    cases failed

end ListedRow

/-! Amounts in texts. -/

/-- The number that a text with an amount spells. -/
def spelledAmount? (raw : String) : Option Decimal :=
  let s := Text.trim raw.toList
  let (negative, rest) :=
    match s with
    | '-' :: rest => (true, rest)
    | _ => (false, s)
  let number := (dropDollar (rest.dropWhile Text.isBlank)).dropWhile Text.isBlank
  (amountPlaces? number).map fun (whole, fraction) => .ofPlaces negative whole fraction 0

theorem readAmount?_eq_map (raw : String) : readAmount? raw = (spelledAmount? raw).map Decimal.toFloat := by
  unfold readAmount? readAmountChars? spelledAmount?
  simp only [Option.map_map]
  rfl

/-- The text of a row spells a number, and there is no other amount. -/
def RawRow.Spells (row : RawRow) (d : Decimal) : Prop :=
  row.amount = none ∧ spelledAmount? row.amountText = some d

/-- What a record is like, and which exceptions its row may make. -/
structure IsWellFormed (row : RawRow) (t : Transaction) : Prop where
  unsigned : 0.0 ≤ t.amount.value
  finite : t.amount.value.isFinite = true ∨ ∃ d, row.Spells d ∧ overflow ≤ d.size
  sign : t.amount.value.toBits.toNat < signBit ∨
    t.amount.value = -0.0 ∧ (row.amount = some (-0.0) ∨ ∃ d, row.Spells d ∧ d.negative = true)
  description : Text.IsTrimmed t.description.toList
  category : Text.IsTrimmed t.category.toList
  named : t.category ≠ ""

theorem isFinite_of_unsigned {x : Float} (unsigned : 0.0 ≤ x) (bounded : x.isInf = false) :
    x.isFinite = true := by
  have shape := zero_le_iff.1 unsigned
  unfold Float.isInf Float.Model.isInf at bounded
  unfold Float.isFinite Float.Model.isFinite
  cases unpacked : x.toModel.unpack with
  | notANumber =>
    rw [unpacked] at shape
    exact shape.elim
  | infinity sign =>
    rw [unpacked] at bounded
    cases bounded
  | zero | finite => rfl

theorem isTrimmed_trimmed (s : String) : Text.IsTrimmed (Text.trimmed s).toList := by
  rw [Text.trimmed, String.toList_ofList]
  exact Text.isTrimmed_trim _

theorem isTrimmed_categoryOf (category : Option String) :
    Text.IsTrimmed (categoryOf category).toList ∧ categoryOf category ≠ "" := by
  unfold categoryOf
  cases kept : (category.map Text.trimmed).filter (!·.isEmpty) with
  | none =>
    have fallback : Text.trimmed defaultCategory = defaultCategory := by decide +kernel
    refine ⟨?_, by decide⟩
    rw [Option.getD_none, ← fallback]
    exact isTrimmed_trimmed _
  | some trimmed =>
    obtain ⟨found, filled⟩ := Option.filter_eq_some_iff.1 kept
    obtain ⟨raw, -, rfl⟩ := Option.map_eq_some_iff.1 found
    constructor
    · exact isTrimmed_trimmed raw
    · intro empty
      rw [Option.getD_some] at empty
      rw [empty] at filled
      cases filled

/-- The exceptions for an amount that a row is read as. -/
theorem isWellFormed_of_toRecord {row : RawRow} {position : Nat} {t : Transaction}
    (inRange : ∀ x, row.amount = some x → x.isInf = false) (h : row.toRecord position = .ok t) :
    IsWellFormed row t := by
  obtain ⟨x, timestamp, readAmount, -, rfl⟩ := RawRow.toRecord_eq_ok_iff.1 h
  obtain ⟨given, unsigned⟩ := RawRow.readAmount_eq_ok_iff.1 readAmount
  have category := isTrimmed_categoryOf row.category
  refine ⟨unsigned, ?_, ?_, isTrimmed_trimmed _, category.1, category.2⟩
  · change x.isFinite = true ∨ _
    cases number : row.amount with
    | some y =>
      rw [number, Option.some_or] at given
      cases given
      exact .inl (isFinite_of_unsigned unsigned (inRange x number))
    | none =>
      rw [number, Option.none_or, readAmount?_eq_map] at given
      obtain ⟨d, spelled, rfl⟩ := Option.map_eq_some_iff.1 given
      rcases lt_or_ge d.size overflow with small | large
      · exact .inl (Decimal.isFinite_toFloat small)
      · exact .inr ⟨d, ⟨number, spelled⟩, large⟩
  · change x.toBits.toNat < signBit ∨ x = -0.0 ∧ _
    rcases Nat.lt_or_ge x.toBits.toNat signBit with clear | set
    · exact .inl clear
    · have zero := eq_negZero_of_signBit_le unsigned set
      refine .inr ⟨zero, ?_⟩
      cases number : row.amount with
      | some y =>
        rw [number, Option.some_or] at given
        cases given
        exact .inl (congrArg some zero)
      | none =>
        rw [number, Option.none_or, readAmount?_eq_map] at given
        obtain ⟨d, spelled, rfl⟩ := Option.map_eq_some_iff.1 given
        refine .inr ⟨d, ⟨number, spelled⟩, ?_⟩
        cases sign : d.negative with
        | true => rfl
        | false => exact absurd (Decimal.toBits_toFloat_lt sign) (not_lt.2 set)

/-! Rows of exports. -/

/-- A row below the header of a table, at its position. -/
def IsTableRow (file : Bytes) (row : RawRow) (position : Nat) : Prop :=
  ∃ header records columns, Csv.ofFile file = (header :: records).map (·.map Bytes.ofText) ∧
    Columns.ofHeader header = .ok columns ∧ (row, position) ∈ columns.rows records

/-- A row of a listing, at its position. -/
def IsListingRow (text : String) (row : RawRow) (position : Nat) : Prop :=
  ∃ rows listed, readText (Node.list ListedRow.ofJson) text = .ok rows ∧
    (listed, position) ∈ rows.zipIdx 1 ∧ row = listed.raw

theorem exists_toRecord_of_mem_ofRows {rows : List (RawRow × Nat)} {t : Transaction}
    (member : t ∈ (Import.ofRows rows).records) :
    ∃ row position, (row, position) ∈ rows ∧ row.toRecord position = .ok t := by
  rw [Import.records_ofRows] at member
  obtain ⟨⟨row, position⟩, inRows, found⟩ := List.mem_filterMap.1 member
  refine ⟨row, position, inRows, ?_⟩
  cases outcome : row.toRecord position with
  | ok record =>
    rw [outcome] at found
    exact congrArg Except.ok (Option.some.inj found)
  | error event =>
    rw [outcome] at found
    cases found

/-- Every record of an import comes from a row and is well formed. -/
theorem imports_wellFormed :
    (∀ file found, readTable file = .ok found → ∀ t ∈ found.records, ∃ row position,
      IsTableRow file row position ∧ row.toRecord position = .ok t ∧ IsWellFormed row t) ∧
    ∀ text found, readListing text = .ok found → ∀ t ∈ found.records, ∃ row position,
      IsListingRow text row position ∧ row.toRecord position = .ok t ∧ IsWellFormed row t := by
  constructor
  · intro file found read t member
    obtain ⟨header, records, columns, texts, named, rfl⟩ := ofTable_eq_ok_iff.1 read
    obtain ⟨row, position, inRows, made⟩ := exists_toRecord_of_mem_ofRows member
    refine ⟨row, position, ⟨header, records, columns, texts, named, inRows⟩, made,
      isWellFormed_of_toRecord ?_ made⟩
    obtain ⟨⟨record, _⟩, -, same⟩ := List.mem_map.1 inRows
    cases same
    rintro x ⟨⟩
  · intro text found read t member
    obtain ⟨rows, listing, rfl⟩ := readListing_eq_ok_iff.1 read
    obtain ⟨row, position, inRows, made⟩ := exists_toRecord_of_mem_ofRows member
    obtain ⟨⟨listed, _⟩, inListing, same⟩ := List.mem_map.1 inRows
    cases same
    refine ⟨listed.raw, position, ⟨rows, listed, listing, inListing, rfl⟩, made,
      isWellFormed_of_toRecord ?_ made⟩
    obtain ⟨n, list⟩ := exists_of_readText listing
    obtain ⟨m, ofJson⟩ := Node.exists_of_mem_list list listed (List.fst_mem_of_mem_zipIdx inListing)
    intro x number
    apply ListedRow.isInRange_of_structure ofJson
    unfold ListedRow.raw at number
    cases amount : listed.amount with
    | number y =>
      rw [amount] at number
      cases number
      rfl
    | text s =>
      rw [amount] at number
      cases number

theorem exists_record_of_amounts {ε : Type} {read : Except ε Import} {x : Float}
    (h : read.toOption.map (·.records.map (·.amount.value)) = some [x]) :
    ∃ found, read = .ok found ∧ ∃ t, found.records = [t] ∧ t.amount.value = x := by
  cases read with
  | error e => cases h
  | ok found => exact ⟨found, rfl, List.map_eq_singleton_iff.1 (Option.some.inj h)⟩

/-- The least power of ten that floats do not reach. -/
def unreachedDigits : List Char := '1' :: List.replicate 309 '0'

def unreachedText : String := String.ofList unreachedDigits

theorem readAmountChars?_unreachedDigits :
    readAmountChars? (Text.trim unreachedDigits) = some (1.0 / 0.0) := by
  decide +kernel

theorem readAmount?_unreachedText : readAmount? unreachedText = some (1.0 / 0.0) := by
  rw [readAmount?, unreachedText, String.toList_ofList, readAmountChars?_unreachedDigits]

theorem amounts_ofRows_unreachedText (row : RawRow) (position : Nat) (none : row.amount = none)
    (text : row.amountText = unreachedText) (moment : (readMoment? row.timestamp).isSome = true) :
    (Import.ofRows [(row, position)]).records.map (·.amount.value) = [1.0 / 0.0] := by
  obtain ⟨timestamp, read⟩ := Option.isSome_iff_exists.1 moment
  have amount : row.readAmount position = .ok (1.0 / 0.0) := by
    rw [RawRow.readAmount_eq_ok_iff, none, text, readAmount?_unreachedText]
    exact ⟨rfl, by decide +kernel⟩
  have made := RawRow.toRecord_eq_ok_iff.2 ⟨_, timestamp, amount, read, rfl⟩
  rw [Import.records_ofRows, List.filterMap_cons, made]
  rfl

/-- Digits beyond the range of floats are infinite, and a zero under a minus keeps it. -/
theorem imports_exceed_range_and_keep_minus :
    ¬(∀ file found, readTable file = .ok found →
      ∀ t ∈ found.records, t.amount.value.isFinite = true) ∧
    ¬∀ file found, readTable file = .ok found →
      ∀ t ∈ found.records, t.amount.value.toBits.toNat < signBit := by
  constructor
  · let entry : Entry := ⟨none, "x", unreachedText, none, "2026-01-01"⟩
    have read := readTable_tableText false .feed [entry]
    have visible : isBlankRecord entry.cells = false := by decide +kernel
    have rows : entryColumns.rows [entry.cells] = [(entryColumns.row entry.cells, 1)] := by
      simp [Columns.rows, visible]
    have amounts := amounts_ofRows_unreachedText (entryColumns.row entry.cells) 1 rfl rfl
      (by decide +kernel)
    rw [← rows] at amounts
    obtain ⟨t, records, value⟩ := List.map_eq_singleton_iff.1 amounts
    intro all
    have finite := all _ _ read t (records ▸ List.mem_singleton_self t)
    rw [value] at finite
    exact absurd finite (by decide +kernel)
  · have amounts : (readTable (.ofText "description,amount,date\nx,-0,2026-01-01\n")).toOption.map
        (·.records.map (·.amount.value)) = some [-0.0] := by
      decide +kernel
    intro all
    obtain ⟨found, read, t, records, value⟩ := exists_record_of_amounts amounts
    have clear := all _ found read t (records ▸ List.mem_singleton_self t)
    rw [value] at clear
    exact absurd clear (by decide +kernel)

/-- A refund of nothing, and a listing with a sum that floats do not reach. -/
theorem imports_wellFormed_negZero :
    let file := Bytes.ofText "description,amount,date\n x ,-$0.00,2026-01-01\n"
    let text := "[\x7b\"description\":\" a\",\"amount\":\"1" ++ String.ofList (List.replicate 309 '0') ++
      "\",\"date\":\"2026-01-01\"\x7d]"
    (∃ found t, readTable file = .ok found ∧ found.records = [t] ∧ t.amount.value = -0.0 ∧
      ∃ row position, IsTableRow file row position ∧ row.toRecord position = .ok t ∧
        IsWellFormed row t) ∧
    ∃ found t, readListing text = .ok found ∧ found.records = [t] ∧ t.amount.value = 1.0 / 0.0 ∧
      ∃ row position, IsListingRow text row position ∧ row.toRecord position = .ok t ∧
        IsWellFormed row t := by
  intro file text
  have table : (readTable file).toOption.map (·.records.map (·.amount.value)) = some [-0.0] := by
    decide +kernel
  have chars : text.toList = "[\x7b\"description\":\" a\",\"amount\":\"1".toList ++
      List.replicate 309 '0' ++ "\",\"date\":\"2026-01-01\"\x7d]".toList := by
    simp only [text, String.toList_append, String.toList_ofList]
  let listed : ListedRow := ⟨none, " a", .text unreachedText, none, "2026-01-01"⟩
  have rows : readText (Node.list ListedRow.ofJson) text = .ok [listed] := by
    rw [readText, chars]
    exact eq_ok_of_toOption (by decide +kernel)
  have listing : (readListing text).toOption.map (·.records.map (·.amount.value)) =
      some [1.0 / 0.0] := by
    rw [readListing, rows]
    exact congrArg some (amounts_ofRows_unreachedText listed.raw 1 rfl rfl (by decide +kernel))
  obtain ⟨found, read, t, records, value⟩ := exists_record_of_amounts table
  obtain ⟨found', read', t', records', value'⟩ := exists_record_of_amounts listing
  exact ⟨⟨found, t, read, records, value,
      imports_wellFormed.1 file found read t (records ▸ List.mem_singleton_self t)⟩,
    ⟨found', t', read', records', value',
      imports_wellFormed.2 text found' read' t' (records' ▸ List.mem_singleton_self t')⟩⟩

end Export

end Outlay
