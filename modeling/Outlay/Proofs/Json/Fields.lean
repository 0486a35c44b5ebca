import Outlay.Proofs.Calendar.Text
import Outlay.Proofs.Json.Value

/-!
# Fields that were written

A field of a structure is read from the tree that its value is written as: finite floats, whole numbers
of 64 bits, days and points in time, names from a list, and what may be missing.
-/

namespace Outlay.Json

open Binary64 Calendar

/-- Whoever reads the text of a value without blanks reads its tree. -/
theorem readText_compactText {α : Type} (read : Node → Read α) (v : Value) :
    readText read v.compactText = read (.ofValue v) :=
  readText_of_isWritten (isWritten_compactText v) read

/-- A finite float is written as a number. -/
theorem Node.exists_ofFloat_eq {x : Float} (finite : x.isFinite = true) :
    ∃ numeral, ofFloat x = .number (.ok numeral) ∧ numeral.read = .ok (.float x) := by
  obtain ⟨negative, m, e, parts⟩ := exists_parts_of_isFinite finite
  have float := toFloat_layoutDecimal floatLayout parts
  refine ⟨_, by rw [ofFloat, parts], ?_⟩
  unfold Numeral.read
  simp only [float, isInf_eq_false_of_isFinite finite]
  rfl

theorem Node.float_ofFloat {x : Float} (finite : x.isFinite = true) : (ofFloat x).float = .ok x := by
  obtain ⟨numeral, written, read⟩ := exists_ofFloat_eq finite
  rw [written]
  simp only [float, kind, readNumber, Except.bind, read]
  rfl

theorem Node.ofFloat_ne_null {x : Float} (finite : x.isFinite = true) : ofFloat x ≠ .null := by
  obtain ⟨numeral, written, -⟩ := exists_ofFloat_eq finite
  rw [written]
  rintro ⟨⟩

theorem Node.count_ofInt {n : Nat} (small : n < UInt64.size) : (ofInt n).count = .ok n := by
  have natural : ¬(n : Int) < 0 := by omega
  have read : Numeral.read (.whole ((n : Int) < 0) (n : Int).natAbs) = .ok (.integer n) := by
    simp only [natural, decide_false, Int.natAbs_natCast, Numeral.read]
    exact if_pos small
  have bounds : (0 : Int) ≤ n ∧ (n : Int) ≤ UInt64.size - 1 := by omega
  simp only [count, ofInt, kind, readNumber, Except.bind, read]
  change (Kind.integer n).readCount = _
  rw [Kind.readCount, Kind.readInteger, if_pos bounds]
  rfl

@[simp] theorem Kind.readDay_text (d : Day) : (Kind.text (String.ofList d.text)).readDay = .ok d := by
  have read := readSpacedDay_text d
  simp only [readDay, readText, bind, Except.bind, String.toList_ofList, read]
  rfl

theorem Node.kind_ofText (s : String) : (ofText s).kind = .ok (.text s) := by
  rw [ofText, kind, RawString.read_ofText]
  rfl

@[simp] theorem Node.day_ofText (d : Day) : (ofText (String.ofList d.text)).day = .ok d := by
  rw [day, kind_ofText]
  exact Kind.readDay_text d

@[simp] theorem Node.timestamp_ofText (t : Timestamp) :
    (ofText (String.ofList t.text)).timestamp = .ok t := by
  have read := readSpacedTimestamp_text t
  rw [timestamp, kind_ofText]
  simp only [Kind.readTimestamp, Kind.readText, bind, Except.bind, String.toList_ofList, read]
  rfl

/-- What may be missing is read as the value that is there, or as none from a null. -/
theorem Node.optional_orNull {α : Type} {read : Node → Read α} {encode : α → Value} {value : Option α}
    (h : ∀ a ∈ value, ofValue (encode a) ≠ .null ∧ read (ofValue (encode a)) = .ok a) :
    (ofValue (.orNull encode value)).optional read = .ok value := by
  cases value with
  | none => rfl
  | some a =>
    obtain ⟨notNull, back⟩ := h a rfl
    change (ofValue (encode a)).optional read = .ok (some a)
    unfold optional
    split
    next null => exact absurd null notNull
    next => rw [back]; rfl

/-! Names from a list. -/

theorem lookup_ofNames {α : Type} {name : α → String} :
    {all : List α} → {a : α} → (∀ b ∈ all, name b = name a → b = a) → a ∈ all →
    (Variants.ofNames all name).lookup (name a) = some a
  | b :: all, a, distinct, member => by
    rw [List.forall_mem_cons] at distinct
    rw [Variants.ofNames, List.map_cons, List.lookup_cons]
    by_cases same : name b = name a
    · rw [same, beq_self_eq_true, distinct.1 same]
    · have other : (name a == name b) = false := beq_eq_false_iff_ne.2 (Ne.symm same)
      have later : a ∈ all := (List.mem_cons.1 member).resolve_left fun h => same (congrArg name h.symm)
      rw [other]
      exact lookup_ofNames distinct.2 later

theorem Variants.find_ofNames {α : Type} {name : α → String} {all : List α}
    (distinct : ∀ a ∈ all, ∀ b ∈ all, name b = name a → b = a) {a : α} (member : a ∈ all) :
    (Variants.ofNames all name).find (name a) = .ok a := by
  rw [find, lookup_ofNames (distinct a member) member]

theorem Node.variant_ofText {α : Type} {variants : Variants α} {name : String} {a : α}
    (found : variants.find name = .ok a) : (ofText name).variant variants = .ok a := by
  simp only [ofText, variant, RawString.read_ofText]
  exact found

end Outlay.Json
