import Outlay.Text.Bytes

/-!
# Bytes that spell a text
-/

namespace Outlay.Bytes

theorem eq_ofText_of_text? {b : Bytes} {s : String} (h : b.text? = some s) : b = ofText s := by
  unfold text? String.fromUTF8? at h
  split at h
  next => cases h; rfl
  next => cases h

theorem text?_eq_some_iff {b : Bytes} {s : String} : b.text? = some s ↔ b = ofText s := by
  constructor
  · exact eq_ofText_of_text?
  · rintro rfl
    exact text?_ofText s

theorem ofText_injective {s s' : String} (h : ofText s = ofText s') : s = s' :=
  Option.some.inj ((text?_ofText s).symm.trans (h ▸ text?_ofText s'))

theorem mapM_text?_eq_some_iff {record : List Bytes} {fields : List String} :
    record.mapM text? = some fields ↔ record = fields.map ofText := by
  induction record generalizing fields with
  | nil => cases fields <;> simp
  | cons cell record ih =>
    rw [List.mapM_cons]
    constructor
    · intro h
      obtain ⟨text, first, more⟩ := Option.bind_eq_some_iff.1 h
      obtain ⟨texts, others, same⟩ := Option.bind_eq_some_iff.1 more
      cases same
      rw [List.map_cons, ← text?_eq_some_iff.1 first, ← ih.1 others]
    · intro h
      cases fields with
      | nil => cases h
      | cons text texts =>
        obtain ⟨rfl, others⟩ := List.cons.inj h
        rw [text?_ofText, ih.2 others]
        rfl

/-- The bytes of the characters, one after the other. -/
def ofChars (s : List Char) : Bytes := s.flatMap String.utf8EncodeChar

@[simp] theorem ofChars_append (s s' : List Char) : ofChars (s ++ s') = ofChars s ++ ofChars s' :=
  List.flatMap_append

theorem ofText_ofList (s : List Char) : ofText (String.ofList s) = ofChars s := by
  change (String.ofList s).toByteArray.data.toList = _
  rw [String.toByteArray_ofList, List.utf8Encode, List.data_toByteArray]
  rfl

theorem ofText_eq_ofChars (s : String) : ofText s = ofChars s.toList := by
  rw [← ofText_ofList, String.ofList_toList]

/-- An ASCII byte occurs as that character alone. -/
theorem utf8EncodeChar_of_mem {c : Char} {b : UInt8} (ascii : b < 0x80)
    (member : b ∈ String.utf8EncodeChar c) : String.utf8EncodeChar c = [b] ∧ c.toNat = b.toNat := by
  have ascii' : b.toNat < 128 := ascii
  unfold String.utf8EncodeChar at member ⊢
  simp only at member ⊢
  split at member
  next small =>
    obtain rfl := List.mem_singleton.1 member
    rw [if_pos small]
    refine ⟨rfl, ?_⟩
    change c.val.toNat = _
    rw [UInt8.toNat_ofNat', Nat.mod_eq_of_lt (Nat.lt_of_le_of_lt small (by decide))]
  next =>
    exfalso
    repeat' split at member
    all_goals
      simp only [List.mem_cons, List.not_mem_nil, or_false] at member
      rcases member with rfl | rfl | rfl | rfl <;> simp at ascii' <;> omega

end Outlay.Bytes
