import Mathlib.Data.List.Forall2
import Outlay.Json.Reading
import Outlay.Proofs.Json.Lexeme
import Outlay.Proofs.Json.Tree

/-!
# Written trees

Strings, whole numbers, arrays and objects are written so that their words are those of a tree without
faults, and such a tree is read as what was written.
-/

namespace Outlay.Json

theorem endsNumber_cons {c : Char} (h : c.isDigit = false ∧ c ≠ '.' ∧ c ≠ 'e' ∧ c ≠ 'E')
    (rest : List Char) : EndsNumber (c :: rest) := by
  rintro c' ⟨⟩
  exact h

namespace Node

/-- A text is read as the words of a tree, wherever it stands. -/
def SpelledBy (n : Node) (text : List Char) : Prop :=
  ∀ rest, EndsNumber rest → lexemes (text ++ rest) = n.words ++ lexemes rest

def ofText (s : String) : Node := .string (.ofText s)

def ofInt (n : Int) : Node := .number (.ok (.whole (n < 0) n.natAbs))

theorem spelledBy_null : Node.null.SpelledBy "null".toList :=
  fun rest _ => lexemes_null rest

theorem spelledBy_bool (b : Bool) : (Node.bool b).SpelledBy (if b then "true" else "false").toList :=
  fun rest _ => lexemes_bool rest b

theorem spelledBy_ofText (s : String) : (ofText s).SpelledBy (stringText s) :=
  fun rest _ => lexemes_stringText rest s

theorem spelledBy_ofInt (n : Int) : (ofInt n).SpelledBy (Decimal.intText n) :=
  fun _ ends => lexemes_intText n ends

end Node

/-! Arrays and objects. -/

def Items.ofList (nodes : List Node) : Items := nodes.foldr .item (.done none)

def Members.ofList (members : List (String × Node)) : Members :=
  members.foldr (fun member => .member (.string (.ofText member.1)) member.2) (.done none)

/-- A member with the text of its value. -/
def memberText (member : String × List Char) : List Char := stringText member.1 ++ ':' :: member.2

def arrayText (items : List (List Char)) : List Char := '[' :: [','].intercalate items ++ [']']

def objectText (members : List (String × List Char)) : List Char :=
  '{' :: [','].intercalate (members.map memberText) ++ ['}']

theorem whole_ofList {nodes : List Node} (h : ∀ n ∈ nodes, n.Whole) : (Items.ofList nodes).Whole := by
  induction nodes with
  | nil => rfl
  | cons n nodes ih =>
    rw [List.forall_mem_cons] at h
    exact ⟨h.1, ih h.2⟩

theorem whole_ofMembers {members : List (String × Node)} (h : ∀ m ∈ members, m.2.Whole) :
    (Members.ofList members).Whole := by
  induction members with
  | nil => rfl
  | cons m members ih =>
    rw [List.forall_mem_cons] at h
    exact ⟨⟨_, rfl⟩, h.1, ih h.2⟩

theorem intercalate_cons (first : List Char) (more : List (List Char)) :
    [','].intercalate (first :: more) = first ++ more.flatMap (',' :: ·) := by
  induction more generalizing first with
  | nil => rw [List.intercalate_singleton, List.flatMap_nil, List.append_nil]
  | cons second more ih =>
    rw [List.intercalate_cons_cons, ih, List.flatMap_cons, List.append_assoc]
    rfl

theorem endsNumber_moreItems (texts : List (List Char)) (rest : List Char) :
    EndsNumber (texts.flatMap (',' :: ·) ++ ']' :: rest) := by
  cases texts <;> exact endsNumber_cons (by decide) _

theorem lexemes_moreItems {nodes : List Node} {texts : List (List Char)}
    (spelled : List.Forall₂ Node.SpelledBy nodes texts) (rest : List Char) :
    lexemes (texts.flatMap (',' :: ·) ++ ']' :: rest) =
      (Items.ofList nodes).moreWords ++ lexemes rest := by
  induction spelled with
  | nil => exact lexemes_closeArray rest
  | @cons n text nodes texts first more ih =>
    have step : Items.moreWords (.ofList (n :: nodes)) =
        .comma :: (n.words ++ (Items.ofList nodes).moreWords) := rfl
    rw [List.flatMap_cons, List.cons_append, List.cons_append, List.append_assoc, lexemes_comma,
      first _ (endsNumber_moreItems texts rest), ih, step, List.cons_append, List.append_assoc]

theorem spelledBy_arrayText {nodes : List Node} {texts : List (List Char)}
    (spelled : List.Forall₂ Node.SpelledBy nodes texts) :
    (Node.array (.ofList nodes)).SpelledBy (arrayText texts) := by
  intro rest _
  cases spelled with
  | nil =>
    change lexemes ('[' :: ']' :: rest) = _
    rw [lexemes_openArray, lexemes_closeArray]
    rfl
  | @cons n text nodes texts first more =>
    have step : (Node.array (.ofList (n :: nodes))).words =
        .openArray :: (n.words ++ (Items.ofList nodes).moreWords) := rfl
    rw [arrayText, intercalate_cons, step]
    simp only [List.cons_append, List.append_assoc, List.nil_append]
    rw [lexemes_openArray, first _ (endsNumber_moreItems texts rest), lexemes_moreItems more]

section

variable {members : List (String × Node)} {texts : List (String × List Char)}

/-- A member of the same name whose value is written so. -/
def MemberSpelledBy (member : String × Node) (text : String × List Char) : Prop :=
  member.1 = text.1 ∧ member.2.SpelledBy text.2

theorem lexemes_member {member : String × Node} {text : String × List Char}
    (spelled : MemberSpelledBy member text) {rest : List Char} (ends : EndsNumber rest) :
    lexemes (memberText text ++ rest) =
      .string (.ofText member.1) :: .colon :: (member.2.words ++ lexemes rest) := by
  obtain ⟨same, value⟩ := spelled
  rw [memberText, List.append_assoc, lexemes_stringText, List.cons_append, lexemes_colon, value _ ends,
    same]

theorem endsNumber_moreMembers (texts : List (List Char)) (rest : List Char) :
    EndsNumber (texts.flatMap (',' :: ·) ++ '}' :: rest) := by
  cases texts <;> exact endsNumber_cons (by decide) _

theorem lexemes_moreMembers (spelled : List.Forall₂ MemberSpelledBy members texts) (rest : List Char) :
    lexemes ((texts.map memberText).flatMap (',' :: ·) ++ '}' :: rest) =
      (Members.ofList members).moreWords ++ lexemes rest := by
  induction spelled with
  | nil => exact lexemes_closeObject rest
  | @cons member text members texts first more ih =>
    have step : Members.moreWords (.ofList (member :: members)) =
        .comma :: .string (.ofText member.1) :: .colon ::
          (member.2.words ++ (Members.ofList members).moreWords) := rfl
    rw [List.map_cons, List.flatMap_cons, List.cons_append, List.cons_append, List.append_assoc,
      lexemes_comma, lexemes_member first (endsNumber_moreMembers _ rest), ih, step]
    simp only [List.cons_append, List.append_assoc]

theorem spelledBy_objectText (spelled : List.Forall₂ MemberSpelledBy members texts) :
    (Node.object (.ofList members)).SpelledBy (objectText texts) := by
  intro rest _
  cases spelled with
  | nil =>
    change lexemes ('{' :: '}' :: rest) = _
    rw [lexemes_openObject, lexemes_closeObject]
    rfl
  | @cons member text members texts first more =>
    have step : (Node.object (.ofList (member :: members))).words =
        .openObject :: .string (.ofText member.1) :: .colon ::
          (member.2.words ++ (Members.ofList members).moreWords) := rfl
    rw [objectText, List.map_cons, intercalate_cons, step]
    simp only [List.cons_append, List.append_assoc, List.nil_append]
    rw [lexemes_openObject, lexemes_member first (endsNumber_moreMembers _ rest),
      lexemes_moreMembers more]

end

/-! Reading trees that were written. -/

@[simp] theorem Key.name_ofText (s : String) : (Key.string (.ofText s)).name = .ok s := by
  rw [Key.name, RawString.read_ofText]
  rfl

@[simp] theorem Node.text_ofText (s : String) : (ofText s).text = .ok s := by
  simp only [text, ofText, kind, RawString.read_ofText]
  rfl

@[simp] theorem Node.value_ofText (room : Nat) (s : String) : (ofText s).value room = .ok (.string s) := by
  simp only [ofText, value, RawString.read_ofText]
  rfl

theorem isInt64_iff {n : Int} :
    isInt64 n = true ↔ -9223372036854775808 ≤ n ∧ n ≤ 9223372036854775807 := by
  rw [isInt64, Bool.and_eq_true, decide_eq_true_eq, decide_eq_true_eq]
  exact Iff.rfl

theorem isInt64_toInt (i : Int64) : isInt64 i.toInt = true :=
  isInt64_iff.2 ⟨i.minValue_le_toInt, i.toInt_le⟩

theorem Numeral.read_int64 {n : Int} (bounds : isInt64 n = true) :
    Numeral.read (.whole (n < 0) n.natAbs) = .ok (.integer n) := by
  have limits := isInt64_iff.1 bounds
  unfold Numeral.read
  by_cases negative : n < 0
  · have size : -(n.natAbs : Int) = n := by omega
    simp only [negative, decide_true, size, bounds, Bool.and_true, decide_eq_true_eq]
    rw [if_pos (by omega)]
  · have size : (n.natAbs : Int) = n := by omega
    simp only [negative, decide_false, size]
    rw [if_pos (by simp [UInt64.size]; omega)]

@[simp] theorem Node.int64_ofInt (i : Int64) : (ofInt i.toInt).int64 = .ok i := by
  have bounds := isInt64_toInt i
  have kind : (ofInt i.toInt).kind = .ok (.integer i.toInt) := by
    rw [ofInt, Node.kind, readNumber]
    simp only [Except.bind, Numeral.read_int64 bounds]
    rfl
  rw [int64, kind]
  simp only [Except.bind, Kind.readInt64, Kind.readInteger]
  rw [if_pos ⟨i.minValue_le_toInt, i.toInt_le⟩]
  exact congrArg Except.ok (Int64.ofInt_toInt i)

theorem Node.optional_int64 (i : Int64) : (ofInt i.toInt).optional int64 = .ok (some i) := by
  change (int64 (ofInt i.toInt)).map some = _
  rw [int64_ofInt]
  rfl

theorem Node.optional_text (s : String) : (ofText s).optional text = .ok (some s) := by
  change (text (ofText s)).map some = _
  rw [text_ofText]
  rfl

theorem Items.mapRead_ofList {α : Type} {read : Node → Read α} {nodes : List Node} {values : List α}
    (h : List.Forall₂ (fun n a => read n = .ok a) nodes values) :
    (ofList nodes).mapRead read = .ok values := by
  induction h with
  | nil => rfl
  | @cons n a nodes values first more ih =>
    change (read n).bind (fun a => ((ofList nodes).mapRead read).bind fun rest => .ok (a :: rest)) = _
    rw [first, ih]
    rfl

theorem Members.foldRead_ofList {α : Type} (put : α → String → Node → Read α) (draft : α)
    (members : List (String × Node)) :
    (ofList members).foldRead put draft = members.foldlM (fun draft m => put draft m.1 m.2) draft := by
  induction members generalizing draft with
  | nil => rfl
  | cons m members ih =>
    change (Key.string (.ofText m.1)).name.bind (fun name =>
      (put draft name m.2).bind fun draft => (ofList members).foldRead put draft) = _
    rw [Key.name_ofText, List.foldlM_cons]
    simp only [Except.bind, ih]
    rfl

end Outlay.Json
