import Outlay.Proofs.Json.Written

/-!
# Objects rearranged and extended

The members of an object may be put in another order, and members with other names than the known ones
may be added, at any depth of a tree. What is passed over stays what can be passed over: exactly the
values of JSON can.
-/

namespace Outlay.Json

/-! Values. -/

/-- A string with its closing quote. -/
def Key.IsClosed : Key → Prop
  | .string s => s.fault = none
  | .broken _ => False

theorem Key.exists_eq_string {key : Key} (closed : key.IsClosed) : ∃ s, key = .string s := by
  cases key with
  | string s => exact ⟨s, rfl⟩
  | broken f => exact closed.elim

/-- Only a string that ends has a text. -/
theorem fault_eq_none_of_readUnits {fault : Option Fault} {units : List StringUnit} {s : List Char}
    (read : readUnits fault units = .ok s) : fault = none := by
  fun_induction readUnits fault units generalizing s
  case case1 ends => exact ends
  case case3 ih | case6 ih | case8 ih | case10 ih | case12 ih =>
    obtain ⟨_, more, -⟩ := map_eq_ok_iff.1 read
    exact ih more
  all_goals cases read

theorem Key.isClosed_of_name {key : Key} {name : String} (named : key.name = .ok name) : key.IsClosed := by
  cases key with
  | string s =>
    rw [Key.name, RawString.read] at named
    cases read : readUnits s.fault s.units with
    | ok text => exact fault_eq_none_of_readUnits read
    | error f =>
      rw [read] at named
      cases named
  | broken f => cases named

mutual

/-- A value of JSON, whatever the codes in its strings stand for and however large its numbers are. -/
def Node.IsValue : Node → Prop
  | .null | .bool _ => True
  | .number n => ∃ numeral, n = .ok numeral
  | .string s => s.fault = none
  | .array items => items.AreValues
  | .object members => members.AreValues
  | .misspelt _ | .broken _ => False
termination_by structural n => n

def Items.AreValues : Items → Prop
  | .done fault => fault = none
  | .item n rest => n.IsValue ∧ rest.AreValues
termination_by structural items => items

def Members.AreValues : Members → Prop
  | .done fault => fault = none
  | .member key value rest => key.IsClosed ∧ value.IsValue ∧ rest.AreValues
termination_by structural members => members

end

theorem elim_fault_eq_ok_iff {fault : Option Fault} :
    fault.elim (.ok ()) .error = (.ok () : Except Fault Unit) ↔ fault = none := by
  cases fault <;> simp

theorem both_eq_ok_iff {first second : Except Fault Unit} :
    (first >>= fun _ => second) = .ok () ↔ first = .ok () ∧ second = .ok () := by
  rw [bind_eq_ok_iff]
  exact ⟨fun ⟨_, both⟩ => both, fun both => ⟨_, both⟩⟩

mutual

/-- The values that are passed over are those of JSON. -/
theorem Node.skip_eq_ok_iff : (n : Node) → (n.skip = .ok () ↔ n.IsValue)
  | .null | .bool _ => by simp [Node.skip, Node.IsValue]
  | .number n => by cases n <;> simp [Node.skip, Node.IsValue]
  | .string _ => elim_fault_eq_ok_iff
  | .array items => items.skip_eq_ok_iff
  | .object members => members.skip_eq_ok_iff
  | .misspelt _ | .broken _ => by simp [Node.skip, Node.IsValue]

theorem Items.skip_eq_ok_iff : (items : Items) → (items.skip = .ok () ↔ items.AreValues)
  | .done _ => elim_fault_eq_ok_iff
  | .item n rest => both_eq_ok_iff.trans (and_congr n.skip_eq_ok_iff rest.skip_eq_ok_iff)

theorem Members.skip_eq_ok_iff : (members : Members) → (members.skip = .ok () ↔ members.AreValues)
  | .done _ => elim_fault_eq_ok_iff
  | .member (.string _) value rest =>
    both_eq_ok_iff.trans (and_congr elim_fault_eq_ok_iff
      (both_eq_ok_iff.trans (and_congr value.skip_eq_ok_iff rest.skip_eq_ok_iff)))
  | .member (.broken _) _ _ => by simp [Members.skip, Members.AreValues, Key.IsClosed, bind, Except.bind]

end

mutual

theorem Node.whole_of_isValue : (n : Node) → n.IsValue → n.Whole
  | .null, _ | .bool _, _ | .number _, _ | .string _, _ => trivial
  | .array items, value => items.whole_of_areValues value
  | .object members, value => members.whole_of_areValues value

theorem Items.whole_of_areValues : (items : Items) → items.AreValues → items.Whole
  | .done _, ends => ends
  | .item n rest, ⟨value, values⟩ => ⟨n.whole_of_isValue value, rest.whole_of_areValues values⟩

theorem Members.whole_of_areValues : (members : Members) → members.AreValues → members.Whole
  | .done _, ends => ends
  | .member _ value rest, ⟨closed, isValue, values⟩ =>
    ⟨Key.exists_eq_string closed, value.whole_of_isValue isValue, rest.whole_of_areValues values⟩

end

theorem Node.ignore_eq_ok_iff {n : Node} : n.ignore = .ok () ↔ n.IsValue := by
  rw [← n.skip_eq_ok_iff, ignore]
  cases n.skip <;> simp [Except.mapError]

/-! Lists of members and items. -/

def Members.ofKeys (members : List (Key × Node)) : Members :=
  members.foldr (fun member => .member member.1 member.2) (.done none)

theorem Items.areValues_ofList {nodes : List Node} :
    (ofList nodes).AreValues ↔ ∀ n ∈ nodes, n.IsValue := by
  induction nodes with
  | nil => simp [ofList, AreValues]
  | cons n nodes ih =>
    rw [List.forall_mem_cons, ← ih]
    exact Iff.rfl

theorem Members.areValues_ofKeys {members : List (Key × Node)} :
    (ofKeys members).AreValues ↔ ∀ m ∈ members, m.1.IsClosed ∧ m.2.IsValue := by
  induction members with
  | nil => simp [ofKeys, AreValues]
  | cons m members ih =>
    rw [List.forall_mem_cons, ← ih, and_assoc]
    exact Iff.rfl

theorem Members.whole_ofKeys {members : List (Key × Node)}
    (each : ∀ m ∈ members, m.1.IsClosed ∧ m.2.Whole) : (ofKeys members).Whole := by
  induction members with
  | nil => rfl
  | cons m members ih =>
    obtain ⟨⟨closed, whole⟩, each⟩ := List.forall_mem_cons.1 each
    exact ⟨Key.exists_eq_string closed, whole, ih each⟩

theorem Items.ofList_injective : Function.Injective ofList := by
  intro nodes nodes' same
  induction nodes generalizing nodes' with
  | nil =>
    cases nodes' with
    | nil => rfl
    | cons => cases same
  | cons n nodes ih =>
    cases nodes' with
    | nil => cases same
    | cons n' nodes' =>
      obtain ⟨rfl, rest⟩ := Items.item.inj same
      rw [ih rest]

theorem Members.ofKeys_injective : Function.Injective ofKeys := by
  intro members members' same
  induction members generalizing members' with
  | nil =>
    cases members' with
    | nil => rfl
    | cons => cases same
  | cons m members ih =>
    cases members' with
    | nil => cases same
    | cons m' members' =>
      obtain ⟨key, value, rest⟩ := Members.member.inj same
      rw [ih rest, Prod.ext key value]

theorem Items.exists_of_mapRead {α : Type} {read : Node → Read α} :
    (items : Items) → {values : List α} → items.mapRead read = .ok values →
    ∃ nodes, items = ofList nodes ∧ List.Forall₂ (fun n a => read n = .ok a) nodes values
  | .done none, _, h => by
    cases h
    exact ⟨[], rfl, .nil⟩
  | .done (some f), _, h => by cases h
  | .item n rest, _, h => by
    obtain ⟨a, first, h⟩ := bind_eq_ok_iff.1 h
    obtain ⟨others, more, same⟩ := bind_eq_ok_iff.1 h
    cases same
    obtain ⟨nodes, rfl, each⟩ := exists_of_mapRead rest more
    exact ⟨n :: nodes, rfl, .cons first each⟩

theorem Items.mapRead_eq_ok_iff {α : Type} {read : Node → Read α} {items : Items} {values : List α} :
    items.mapRead read = .ok values ↔
      ∃ nodes, items = ofList nodes ∧ List.Forall₂ (fun n a => read n = .ok a) nodes values := by
  refine ⟨exists_of_mapRead items, ?_⟩
  rintro ⟨nodes, rfl, each⟩
  exact mapRead_ofList each

/-- A reader of members reads the name of each and puts its value where it belongs. -/
def takeMember {α : Type} (put : α → String → Node → Read α) (draft : α) (member : Key × Node) : Read α :=
  member.1.name.bind fun name => put draft name member.2

theorem Members.foldRead_ofKeys {α : Type} (put : α → String → Node → Read α) (draft : α)
    (members : List (Key × Node)) :
    (ofKeys members).foldRead put draft = members.foldlM (takeMember put) draft := by
  induction members generalizing draft with
  | nil => rfl
  | cons m members ih =>
    rw [List.foldlM_cons, takeMember]
    change m.1.name.bind (fun name => (put draft name m.2).bind fun d => (ofKeys members).foldRead put d) = _
    cases m.1.name with
    | error e => rfl
    | ok name =>
      cases taken : put draft name m.2 with
      | error e => simp only [Except.bind, taken, bind]
      | ok d => simp only [Except.bind, taken, bind, ih]

theorem Members.exists_ofKeys_of_foldRead {α : Type} {put : α → String → Node → Read α} {d : α} :
    (members : Members) → {draft : α} → members.foldRead put draft = .ok d →
    ∃ list, members = ofKeys list
  | .done none, _, _ => ⟨[], rfl⟩
  | .done (some f), _, h => by cases h
  | .member key value rest, _, h => by
    obtain ⟨name, -, h⟩ := bind_eq_ok_iff.1 h
    obtain ⟨draft, -, h⟩ := bind_eq_ok_iff.1 h
    obtain ⟨list, rfl⟩ := exists_ofKeys_of_foldRead rest h
    exact ⟨(key, value) :: list, rfl⟩

/-! Edits. -/

/-- A tree with the members of one object in another order, or with one member more, whose name is not
among the known ones. -/
inductive Node.Edit (known : List String) : Node → Node → Prop
  | permute {members members' : List (Key × Node)} : members.Perm members' →
      Edit known (.object (.ofKeys members)) (.object (.ofKeys members'))
  | add (front back : List (Key × Node)) {key : Key} {name : String} {value : Node} :
      key.name = .ok name → name ∉ known → value.IsValue →
      Edit known (.object (.ofKeys (front ++ back))) (.object (.ofKeys (front ++ (key, value) :: back)))
  | inMember (front back : List (Key × Node)) (key : Key) {value value' : Node} :
      Edit known value value' → Edit known (.object (.ofKeys (front ++ (key, value) :: back)))
        (.object (.ofKeys (front ++ (key, value') :: back)))
  | inItem (front back : List Node) {n n' : Node} : Edit known n n' →
      Edit known (.array (.ofList (front ++ n :: back))) (.array (.ofList (front ++ n' :: back)))

theorem Node.Edit.isValue {known : List String} {n n' : Node} (edit : Edit known n n')
    (value : n.IsValue) : n'.IsValue := by
  induction edit with
  | permute perm =>
    have members := Members.areValues_ofKeys.1 value
    exact Members.areValues_ofKeys.2 fun m member => members m (perm.mem_iff.2 member)
  | add front back named fresh isValue =>
    have members := Members.areValues_ofKeys.1 value
    refine Members.areValues_ofKeys.2 ?_
    rw [List.forall_mem_append] at members ⊢
    exact ⟨members.1, List.forall_mem_cons.2 ⟨⟨Key.isClosed_of_name named, isValue⟩, members.2⟩⟩
  | inMember front back key edit ih =>
    have members := Members.areValues_ofKeys.1 value
    refine Members.areValues_ofKeys.2 ?_
    rw [List.forall_mem_append, List.forall_mem_cons] at members ⊢
    exact ⟨members.1, ⟨members.2.1.1, ih members.2.1.2⟩, members.2.2⟩
  | inItem front back edit ih =>
    have items := Items.areValues_ofList.1 value
    refine Items.areValues_ofList.2 ?_
    rw [List.forall_mem_append, List.forall_mem_cons] at items ⊢
    exact ⟨items.1, ih items.2.1, items.2.2⟩

end Outlay.Json
