import Mathlib.Logic.Relation
import Outlay.Export.Listing
import Outlay.Proofs.Export.Fate
import Outlay.Proofs.Json.Edit

/-!
# Listings rearranged and extended

A member of a row offers at most one field, and no field is offered twice, so the order of the members
does not matter. A member with an unknown name offers nothing.
-/

namespace Outlay.Json

/-- A value without parts. -/
def Node.IsPlain : Node → Prop
  | .array _ | .object _ | .broken _ => False
  | .null | .bool _ | .number _ | .string _ | .misspelt _ => True

namespace Node

variable {n : Node}

theorem IsPlain.whole (plain : n.IsPlain) : n.Whole := by
  cases n with
  | array | object | broken => exact plain.elim
  | null | bool | number | string | misspelt => trivial

theorem Edit.not_isPlain {known : List String} {n' : Node} (edit : Edit known n n') : ¬n.IsPlain := by
  cases edit <;> exact id

theorem isPlain_of_text {s : String} (read : n.text = .ok s) : n.IsPlain := by
  cases n with
  | array | object | broken => cases read
  | null | bool | number | string | misspelt => trivial

theorem isPlain_of_int64 {i : Int64} (read : n.int64 = .ok i) : n.IsPlain := by
  cases n with
  | array | object | broken => cases read
  | null | bool | number | string | misspelt => trivial

theorem isPlain_of_optional {α : Type} {read : Node → Read α} {value : Option α}
    (plain : ∀ {a}, read n = .ok a → n.IsPlain) (found : n.optional read = .ok value) : n.IsPlain := by
  unfold optional at found
  split at found
  · trivial
  · obtain ⟨a, found, -⟩ := map_eq_ok_iff.1 found
    exact plain found

end Node

/-- Nothing but values without parts. -/
def Items.ArePlain (items : Items) : Prop :=
  ∃ nodes : List Node, items = .ofList nodes ∧ ∀ n ∈ nodes, n.IsPlain

namespace Items

theorem arePlain_of_close {items : Items} (closed : items.close = .ok ()) : items.ArePlain := by
  cases items with
  | done fault =>
    cases fault with
    | none => exact ⟨[], rfl, List.forall_mem_nil _⟩
    | some f => cases closed
  | item n rest => cases closed

section

variable {α : Type} {read : Node → Read α} (plain : ∀ {n a}, read n = .ok a → n.IsPlain)
  {items rest : Items}

include plain

theorem arePlain_of_next {a? : Option α} (next : items.next read = .ok (a?, rest))
    (others : rest.ArePlain) : items.ArePlain := by
  cases items with
  | done fault =>
    cases fault with
    | none => exact ⟨[], rfl, List.forall_mem_nil _⟩
    | some f => cases next
  | item n items =>
    obtain ⟨a, here, same⟩ := bind_eq_ok_iff.1 next
    cases same
    obtain ⟨nodes, rfl, each⟩ := others
    exact ⟨n :: nodes, rfl, List.forall_mem_cons.2 ⟨plain here, each⟩⟩

theorem arePlain_of_take {index : Nat} {expected : String} {a : α}
    (taken : items.take read index expected = .ok (a, rest)) (others : rest.ArePlain) :
    items.ArePlain := by
  obtain ⟨⟨a?, rest'⟩, next, taken⟩ := bind_eq_ok_iff.1 taken
  cases a? with
  | none => cases taken
  | some a' =>
    cases taken
    exact arePlain_of_next plain next others

end

theorem ArePlain.whole {items : Items} (plain : items.ArePlain) : items.Whole := by
  obtain ⟨nodes, rfl, each⟩ := plain
  exact whole_ofList fun n member => (each n member).whole

end Items

end Outlay.Json

namespace Outlay.Export

open Json

theorem isPlain_of_ofJson {n : Node} {amount : ListedAmount} (read : ListedAmount.ofJson n = .ok amount) :
    n.IsPlain := by
  obtain ⟨v, value, read⟩ := bind_eq_ok_iff.1 read
  cases n with
  | array items =>
    unfold Node.value at value
    split at value
    · cases value
    · obtain ⟨_, -, rfl⟩ := map_eq_ok_iff.1 value
      cases read
  | object members =>
    unfold Node.value at value
    split at value
    · cases value
    · obtain ⟨_, -, rfl⟩ := map_eq_ok_iff.1 value
      cases read
  | broken => cases value
  | null | bool | number | string | misspelt => trivial

namespace ListedRow

def fieldNames : List String := ["id", "description", "amount", "category", "timestamp", "date"]

namespace Draft

/-- What the first has, and else what the second has. -/
def or (d e : Draft) : Draft where
  id := d.id.or e.id
  description := d.description.or e.description
  amount := d.amount.or e.amount
  category := d.category.or e.category
  timestamp := d.timestamp.or e.timestamp

/-- No field is in both. -/
structure Apart (d e : Draft) : Prop where
  id : d.id = none ∨ e.id = none
  description : d.description = none ∨ e.description = none
  amount : d.amount = none ∨ e.amount = none
  category : d.category = none ∨ e.category = none
  timestamp : d.timestamp = none ∨ e.timestamp = none

/-- What a member offers to the draft of its row. -/
inductive Offers (m : Key × Node) : Draft → Prop
  | id {id : Option Int64} : m.1.name = .ok "id" → m.2.optional Node.int64 = .ok id →
      Offers m { id := some id }
  | description {s : String} : m.1.name = .ok "description" → m.2.text = .ok s →
      Offers m { description := some s }
  | amount {amount : ListedAmount} : m.1.name = .ok "amount" → ListedAmount.ofJson m.2 = .ok amount →
      Offers m { amount := some amount }
  | category {category : Option String} : m.1.name = .ok "category" →
      m.2.optional Node.text = .ok category → Offers m { category := some category }
  | timestamp {s : String} : m.1.name = .ok "timestamp" ∨ m.1.name = .ok "date" → m.2.text = .ok s →
      Offers m { timestamp := some s }
  | other {name : String} : m.1.name = .ok name → name ∉ fieldNames → m.2.IsValue → Offers m {}

theorem once_map_eq_ok_iff {α β : Type} {field : String} {old : Option α} {read : Read α}
    {f : Option α → β} {b : β} :
    (once field old read).map f = .ok b ↔ old = none ∧ ∃ a, read = .ok a ∧ b = f (some a) := by
  unfold once
  cases old with
  | some a => simp [mismatch, Except.map]
  | none => cases read <;> simp [Except.map, eq_comm]

theorem put_of_notMem {d : Draft} {name : String} (unknown : name ∉ fieldNames) (n : Node) :
    d.put name n = n.ignore.map fun _ => d := by
  unfold put
  split <;> simp_all [fieldNames]

theorem exists_offers_of_put {d d' : Draft} {m : Key × Node} {name : String} (named : m.1.name = .ok name)
    (taken : d.put name m.2 = .ok d') : ∃ e, Offers m e ∧ d.Apart e ∧ d' = d.or e := by
  by_cases known : name ∈ fieldNames
  · unfold put at taken
    split at taken
    · obtain ⟨empty, id, read, rfl⟩ := once_map_eq_ok_iff.1 taken
      exact ⟨_, .id named read, ⟨.inl empty, .inr rfl, .inr rfl, .inr rfl, .inr rfl⟩, by simp [or, empty]⟩
    · obtain ⟨empty, s, read, rfl⟩ := once_map_eq_ok_iff.1 taken
      exact ⟨_, .description named read, ⟨.inr rfl, .inl empty, .inr rfl, .inr rfl, .inr rfl⟩,
        by simp [or, empty]⟩
    · obtain ⟨empty, amount, read, rfl⟩ := once_map_eq_ok_iff.1 taken
      exact ⟨_, .amount named read, ⟨.inr rfl, .inr rfl, .inl empty, .inr rfl, .inr rfl⟩,
        by simp [or, empty]⟩
    · obtain ⟨empty, category, read, rfl⟩ := once_map_eq_ok_iff.1 taken
      exact ⟨_, .category named read, ⟨.inr rfl, .inr rfl, .inr rfl, .inl empty, .inr rfl⟩,
        by simp [or, empty]⟩
    · obtain ⟨empty, s, read, rfl⟩ := once_map_eq_ok_iff.1 taken
      exact ⟨_, .timestamp (.inl named) read, ⟨.inr rfl, .inr rfl, .inr rfl, .inr rfl, .inl empty⟩,
        by simp [or, empty]⟩
    · obtain ⟨empty, s, read, rfl⟩ := once_map_eq_ok_iff.1 taken
      exact ⟨_, .timestamp (.inr named) read, ⟨.inr rfl, .inr rfl, .inr rfl, .inr rfl, .inl empty⟩,
        by simp [or, empty]⟩
    · simp_all [fieldNames]
  · rw [put_of_notMem known] at taken
    obtain ⟨_, ignored, rfl⟩ := map_eq_ok_iff.1 taken
    exact ⟨{}, .other named known (Node.ignore_eq_ok_iff.1 ignored),
      ⟨.inr rfl, .inr rfl, .inr rfl, .inr rfl, .inr rfl⟩, by simp [or]⟩

theorem takeMember_of_offers {d e : Draft} {m : Key × Node} (offers : Offers m e) (apart : d.Apart e) :
    takeMember put d m = .ok (d.or e) := by
  cases offers with
  | id named read =>
    have empty : d.id = none := apart.id.resolve_right (Option.some_ne_none _)
    simp [takeMember, named, read, put, once, empty, or, Except.bind, Except.map]
  | description named read =>
    have empty : d.description = none := apart.description.resolve_right (Option.some_ne_none _)
    simp [takeMember, named, read, put, once, empty, or, Except.bind, Except.map]
  | amount named read =>
    have empty : d.amount = none := apart.amount.resolve_right (Option.some_ne_none _)
    simp [takeMember, named, read, put, once, empty, or, Except.bind, Except.map]
  | category named read =>
    have empty : d.category = none := apart.category.resolve_right (Option.some_ne_none _)
    simp [takeMember, named, read, put, once, empty, or, Except.bind, Except.map]
  | timestamp named read =>
    have empty : d.timestamp = none := apart.timestamp.resolve_right (Option.some_ne_none _)
    rcases named with named | named <;>
      simp [takeMember, named, read, put, once, empty, or, Except.bind, Except.map]
  | other named unknown value =>
    have ignored := Node.ignore_eq_ok_iff.2 value
    simp [takeMember, named, put_of_notMem unknown, ignored, or, Except.bind, Except.map]

section

variable {d e f : Draft}

theorem apart_or_iff : (d.or e).Apart f ↔ d.Apart f ∧ e.Apart f := by
  have field {α : Type} (a b c : Option α) :
      a.or b = none ∨ c = none ↔ (a = none ∨ c = none) ∧ (b = none ∨ c = none) := by
    rw [Option.or_eq_none_iff, and_or_right]
  constructor
  · rintro ⟨id, description, amount, category, timestamp⟩
    rw [or, field] at id description amount category timestamp
    exact ⟨⟨id.1, description.1, amount.1, category.1, timestamp.1⟩,
      ⟨id.2, description.2, amount.2, category.2, timestamp.2⟩⟩
  · rintro ⟨⟨id, description, amount, category, timestamp⟩,
      ⟨id', description', amount', category', timestamp'⟩⟩
    exact ⟨(field ..).2 ⟨id, id'⟩, (field ..).2 ⟨description, description'⟩,
      (field ..).2 ⟨amount, amount'⟩, (field ..).2 ⟨category, category'⟩,
      (field ..).2 ⟨timestamp, timestamp'⟩⟩

theorem Apart.symm (apart : d.Apart e) : e.Apart d where
  id := apart.id.symm
  description := apart.description.symm
  amount := apart.amount.symm
  category := apart.category.symm
  timestamp := apart.timestamp.symm

theorem or_right_comm (apart : e.Apart f) : (d.or e).or f = (d.or f).or e := by
  have field {α : Type} {a b c : Option α} (apart : b = none ∨ c = none) :
      (a.or b).or c = (a.or c).or b := by
    rcases apart with rfl | rfl <;> rw [Option.or_none, Option.or_none]
  simp only [or, mk.injEq]
  exact ⟨field apart.id, field apart.description, field apart.amount, field apart.category,
    field apart.timestamp⟩

end

theorem takeMember_eq_ok_iff {d d' : Draft} {m : Key × Node} :
    takeMember put d m = .ok d' ↔ ∃ e, Offers m e ∧ d.Apart e ∧ d' = d.or e := by
  constructor
  · intro taken
    obtain ⟨name, named, taken⟩ := bind_eq_ok_iff.1 taken
    exact exists_offers_of_put named taken
  · rintro ⟨e, offers, apart, rfl⟩
    exact takeMember_of_offers offers apart

/-- Two members may be taken in either order. -/
theorem takeMember_comm {d d₁ d₂ : Draft} {m m' : Key × Node} (first : takeMember put d m = .ok d₁)
    (second : takeMember put d₁ m' = .ok d₂) :
    ∃ d', takeMember put d m' = .ok d' ∧ takeMember put d' m = .ok d₂ := by
  obtain ⟨e, offers, apart, rfl⟩ := takeMember_eq_ok_iff.1 first
  obtain ⟨f, offers', apart', rfl⟩ := takeMember_eq_ok_iff.1 second
  obtain ⟨toDraft, between⟩ := apart_or_iff.1 apart'
  refine ⟨d.or f, takeMember_of_offers offers' toDraft, ?_⟩
  rw [or_right_comm between]
  exact takeMember_of_offers offers (apart_or_iff.2 ⟨apart, between.symm⟩)

end Draft

/-- A row that is an array has no parts below its fields. -/
theorem arePlain_of_ofItems {items rest : Items} {row : ListedRow} (read : ofItems items = .ok (row, rest))
    (others : rest.ArePlain) : items.ArePlain := by
  obtain ⟨⟨id, _⟩, id?, read⟩ := bind_eq_ok_iff.1 read
  obtain ⟨⟨description, _⟩, description?, read⟩ := bind_eq_ok_iff.1 read
  obtain ⟨⟨amount, _⟩, amount?, read⟩ := bind_eq_ok_iff.1 read
  obtain ⟨⟨category, _⟩, category?, read⟩ := bind_eq_ok_iff.1 read
  obtain ⟨⟨timestamp, _⟩, timestamp?, read⟩ := bind_eq_ok_iff.1 read
  cases read
  apply Items.arePlain_of_next (Node.isPlain_of_optional Node.isPlain_of_int64) id?
  apply Items.arePlain_of_take Node.isPlain_of_text description?
  apply Items.arePlain_of_take isPlain_of_ofJson amount?
  apply Items.arePlain_of_next (Node.isPlain_of_optional Node.isPlain_of_text) category?
  exact Items.arePlain_of_take Node.isPlain_of_text timestamp? others

/-- What is read as a row. -/
theorem exists_of_ofJson {n : Node} {row : ListedRow} (read : ofJson n = .ok row) :
    (∃ items : Items, n = .array items ∧ items.ArePlain) ∨
      ∃ members draft, n = .object (.ofKeys members) ∧ members.foldlM (takeMember Draft.put) {} = .ok draft ∧
        draft.done = .ok row := by
  cases n with
  | array items =>
    obtain ⟨⟨row', rest⟩, fields, read⟩ := bind_eq_ok_iff.1 read
    obtain ⟨_, closed, read⟩ := bind_eq_ok_iff.1 read
    cases read
    exact .inl ⟨items, rfl, arePlain_of_ofItems fields (Items.arePlain_of_close closed)⟩
  | object members =>
    obtain ⟨draft, fields, done⟩ := bind_eq_ok_iff.1 read
    obtain ⟨list, rfl⟩ := members.exists_ofKeys_of_foldRead fields
    rw [Members.foldRead_ofKeys] at fields
    exact .inr ⟨list, draft, rfl, fields, done⟩
  | _ =>
    obtain ⟨kind, -, failed⟩ := bind_eq_ok_iff.1 read
    cases failed

theorem ofJson_ofKeys {members : List (Key × Node)} {draft : Draft} {row : ListedRow}
    (taken : members.foldlM (takeMember Draft.put) {} = .ok draft) (done : draft.done = .ok row) :
    ofJson (.object (.ofKeys members)) = .ok row := by
  change ofMembers (.ofKeys members) = .ok row
  rw [ofMembers, Members.foldRead_ofKeys, taken]
  exact done

theorem Draft.Offers.whole {m : Key × Node} {e : Draft} (offers : Draft.Offers m e) :
    m.1.IsClosed ∧ m.2.Whole := by
  cases offers with
  | id named read =>
    exact ⟨Key.isClosed_of_name named, (Node.isPlain_of_optional Node.isPlain_of_int64 read).whole⟩
  | description named read => exact ⟨Key.isClosed_of_name named, (Node.isPlain_of_text read).whole⟩
  | amount named read => exact ⟨Key.isClosed_of_name named, (isPlain_of_ofJson read).whole⟩
  | category named read =>
    exact ⟨Key.isClosed_of_name named, (Node.isPlain_of_optional Node.isPlain_of_text read).whole⟩
  | timestamp named read =>
    exact ⟨named.elim Key.isClosed_of_name Key.isClosed_of_name, (Node.isPlain_of_text read).whole⟩
  | other named unknown value => exact ⟨Key.isClosed_of_name named, m.2.whole_of_isValue value⟩

theorem forall_whole_of_foldlM {members : List (Key × Node)} {d d' : Draft}
    (taken : members.foldlM (takeMember Draft.put) d = .ok d') :
    ∀ m ∈ members, m.1.IsClosed ∧ m.2.Whole := by
  induction members generalizing d with
  | nil => exact List.forall_mem_nil _
  | cons m members ih =>
    rw [List.foldlM_cons, bind_eq_ok_iff] at taken
    obtain ⟨d₁, first, rest⟩ := taken
    obtain ⟨e, offers, -⟩ := Draft.takeMember_eq_ok_iff.1 first
    exact List.forall_mem_cons.2 ⟨offers.whole, ih rest⟩

theorem whole_of_ofJson {n : Node} {row : ListedRow} (read : ofJson n = .ok row) : n.Whole := by
  rcases exists_of_ofJson read with ⟨items, rfl, plain⟩ | ⟨members, draft, rfl, taken, -⟩
  · exact plain.whole
  · exact Members.whole_ofKeys (forall_whole_of_foldlM taken)

/-- An edit inside a member is only possible where the member is passed over. -/
theorem Draft.Offers.edit {key : Key} {value value' : Node} {e : Draft} (offers : Offers (key, value) e)
    (edit : Node.Edit fieldNames value value') : Offers (key, value') e := by
  cases offers with
  | id named read =>
    exact absurd (Node.isPlain_of_optional Node.isPlain_of_int64 read) edit.not_isPlain
  | description named read => exact absurd (Node.isPlain_of_text read) edit.not_isPlain
  | amount named read => exact absurd (isPlain_of_ofJson read) edit.not_isPlain
  | category named read =>
    exact absurd (Node.isPlain_of_optional Node.isPlain_of_text read) edit.not_isPlain
  | timestamp named read => exact absurd (Node.isPlain_of_text read) edit.not_isPlain
  | other named unknown isValue => exact .other named unknown (edit.isValue isValue)

theorem takeMember_edit {d d' : Draft} {key : Key} {value value' : Node}
    (taken : takeMember Draft.put d (key, value) = .ok d') (edit : Node.Edit fieldNames value value') :
    takeMember Draft.put d (key, value') = .ok d' := by
  obtain ⟨e, offers, apart, rfl⟩ := Draft.takeMember_eq_ok_iff.1 taken
  exact Draft.takeMember_of_offers (offers.edit edit) apart

theorem takeMember_unknown {key : Key} {name : String} {value : Node} (named : key.name = .ok name)
    (unknown : name ∉ fieldNames) (isValue : value.IsValue) (d : Draft) :
    takeMember Draft.put d (key, value) = .ok d := by
  have ignored := Node.ignore_eq_ok_iff.2 isValue
  simp [takeMember, named, Draft.put_of_notMem unknown, ignored, Except.bind, Except.map]

/-- The members of a row after an edit give the same draft. -/
theorem ofJson_of_edit {n n' : Node} {row : ListedRow} (read : ofJson n = .ok row)
    (edit : Node.Edit fieldNames n n') : ofJson n' = .ok row := by
  rcases exists_of_ofJson read with ⟨items, rfl, plain⟩ | ⟨members, draft, rfl, taken, done⟩
  · obtain ⟨nodes, rfl, each⟩ := plain
    generalize same : Node.array (.ofList nodes) = n at edit
    cases edit with
    | inItem front back edit =>
      obtain rfl := Items.ofList_injective (Node.array.inj same)
      -- Every item of the row is plain, and an edit needs an array or an object.
      have plain := each _ (List.mem_append_right front List.mem_cons_self)
      exact absurd plain edit.not_isPlain
    | permute | add | inMember => cases same
  · generalize same : Node.object (.ofKeys members) = n at edit
    cases edit with
    | permute perm =>
      obtain rfl := Members.ofKeys_injective (Node.object.inj same)
      refine ofJson_ofKeys (foldlM_eq_ok_of_perm ?_ perm taken) done
      exact fun _ _ _ _ _ => Draft.takeMember_comm
    | add front back named unknown isValue =>
      obtain rfl := Members.ofKeys_injective (Node.object.inj same)
      refine ofJson_ofKeys ?_ done
      rw [List.foldlM_append] at taken ⊢
      simp only [List.foldlM_cons, takeMember_unknown named unknown isValue]
      exact taken
    | inMember front back key edit =>
      obtain rfl := Members.ofKeys_injective (Node.object.inj same)
      refine ofJson_ofKeys ?_ done
      simp only [List.foldlM_append, List.foldlM_cons, bind_eq_ok_iff] at taken ⊢
      obtain ⟨d, before, d', here, after⟩ := taken
      exact ⟨d, before, d', takeMember_edit here edit, after⟩
    | inItem => cases same

end ListedRow

section Listing

variable {n n' : Node} {rows : List ListedRow}

theorem exists_of_list (read : n.list ListedRow.ofJson = .ok rows) : ∃ nodes, n = .array (.ofList nodes) ∧
    List.Forall₂ (fun n row => ListedRow.ofJson n = .ok row) nodes rows := by
  cases n with
  | array items =>
    obtain ⟨nodes, rfl, each⟩ := Items.mapRead_eq_ok_iff.1 read
    exact ⟨nodes, rfl, each⟩
  | _ =>
    obtain ⟨kind, -, failed⟩ := bind_eq_ok_iff.1 read
    cases failed

theorem forall₂_replace {α β : Type} {R : α → β → Prop} {front back : List α} {a a' : α} {values : List β}
    (replace : ∀ b, R a b → R a' b) (each : List.Forall₂ R (front ++ a :: back) values) :
    List.Forall₂ R (front ++ a' :: back) values := by
  induction front generalizing values with
  | nil =>
    cases each with
    | cons here rest => exact .cons (replace _ here) rest
  | cons first front ih =>
    cases each with
    | cons here rest => exact .cons here (ih rest)

theorem whole_of_list (read : n.list ListedRow.ofJson = .ok rows) : n.Whole := by
  obtain ⟨nodes, rfl, each⟩ := exists_of_list read
  have wholes := each.imp fun n row read => And.intro (ListedRow.whole_of_ofJson read) read
  exact whole_ofList ((List.forall₂_and_left _ _).1 wholes).1

theorem list_of_edit (read : n.list ListedRow.ofJson = .ok rows)
    (edit : Node.Edit ListedRow.fieldNames n n') : n'.list ListedRow.ofJson = .ok rows := by
  obtain ⟨nodes, rfl, each⟩ := exists_of_list read
  generalize same : Node.array (.ofList nodes) = n at edit
  cases edit with
  | inItem front back edit =>
    obtain rfl := Items.ofList_injective (Node.array.inj same)
    exact Items.mapRead_ofList (forall₂_replace (fun row read => ListedRow.ofJson_of_edit read edit) each)
  | permute | add | inMember => cases same

end Listing

/-- A listing that is read is read as before from any text of its tree after such edits. -/
theorem readListing_of_edits {text text' : String} {found : Import} (read : readListing text = .ok found)
    {n : Node} (edits : Relation.ReflTransGen (Node.Edit ListedRow.fieldNames)
      (Document.ofChars text.toList).value n) (spelled : lexemes text'.toList = n.words) :
    readListing text' = .ok found := by
  obtain ⟨rows, parsed, rfl⟩ := readListing_eq_ok_iff.1 read
  have kept : n.list ListedRow.ofJson = .ok rows := by
    clear spelled
    induction edits with
    | refl => exact (readText_eq_ok_iff.1 parsed).1
    | tail _ edit ih => exact list_of_edit ih edit
  refine readListing_eq_ok_iff.2 ⟨rows, ?_, rfl⟩
  rw [readText_eq (whole_of_list kept) spelled, kept]

end Outlay.Export
