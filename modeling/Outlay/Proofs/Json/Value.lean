import Outlay.Proofs.Json.Float

/-!
# Written values

The text of a value, with or without blanks in it, is read as the tree of the value. A float that is
not finite leaves a null in the tree.
-/

namespace Outlay.Json

open Binary64

def Node.ofFloat (x : Float) : Node :=
  match parts x with
  | .finite negative m e => .number (.ok (.decimal (layoutDecimal floatLayout negative m e)))
  | _ => .null

mutual

/-- The tree that a value is written as. -/
def Node.ofValue : Value → Node
  | .null => .null
  | .bool b => .bool b
  | .number (.integer n) => .ofInt n
  | .number (.float x) => .ofFloat x
  | .string s => .ofText s
  | .array items => .array (Items.ofValues items)
  | .object members => .object (Members.ofValues members)
termination_by structural v => v

def Items.ofValues : List Value → Items
  | [] => .done none
  | item :: rest => .item (Node.ofValue item) (Items.ofValues rest)
termination_by structural items => items

def Members.ofValues : List (String × Value) → Members
  | [] => .done none
  | (name, value) :: rest => .member (.string (.ofText name)) (Node.ofValue value) (Members.ofValues rest)
termination_by structural members => members

end

theorem Items.ofValues_eq (items : List Value) :
    Items.ofValues items = .ofList (items.map Node.ofValue) := by
  induction items with
  | nil => rfl
  | cons item items ih =>
    rw [Items.ofValues, ih]
    rfl

theorem Node.whole_ofFloat (x : Float) : (ofFloat x).Whole := by
  unfold ofFloat
  split <;> exact trivial

mutual

theorem Node.whole_ofValue : (v : Value) → (Node.ofValue v).Whole
  | .null | .bool _ | .number (.integer _) | .string _ => trivial
  | .number (.float x) => Node.whole_ofFloat x
  | .array items => Items.whole_ofValues items
  | .object members => Members.whole_ofValues members

theorem Items.whole_ofValues : (items : List Value) → (Items.ofValues items).Whole
  | [] => rfl
  | item :: rest => ⟨Node.whole_ofValue item, Items.whole_ofValues rest⟩

theorem Members.whole_ofValues : (members : List (String × Value)) → (Members.ofValues members).Whole
  | [] => rfl
  | (_, value) :: rest => ⟨⟨_, rfl⟩, Node.whole_ofValue value, Members.whole_ofValues rest⟩

end

theorem Node.spelledBy_ofFloat (x : Float) : (ofFloat x).SpelledBy (floatText x) := by
  intro rest ends
  unfold ofFloat floatText
  cases parts x with
  | finite negative m e => exact lexemes_finite floatLayout negative m e ends
  | nan | infinite => exact lexemes_null rest

/-! Texts without blanks. -/

theorem endsNumber_compactMoreItems (items : List Value) (rest : List Char) :
    EndsNumber (Value.compactMoreItems items ++ rest) := by
  cases items <;> exact endsNumber_cons (by decide) _

theorem endsNumber_compactMoreMembers (members : List (String × Value)) (rest : List Char) :
    EndsNumber (Value.compactMoreMembers members ++ rest) := by
  cases members <;> exact endsNumber_cons (by decide) _

mutual

theorem spelledBy_compact : (v : Value) → (Node.ofValue v).SpelledBy v.compact
  | .null => Node.spelledBy_null
  | .bool b => Node.spelledBy_bool b
  | .number (.integer n) => Node.spelledBy_ofInt n
  | .number (.float x) => Node.spelledBy_ofFloat x
  | .string s => Node.spelledBy_ofText s
  | .array items => by
    intro rest _
    rw [Value.compact, List.cons_append, lexemes_openArray, lexemes_compactItems items rest]
    rfl
  | .object members => by
    intro rest _
    rw [Value.compact, List.cons_append, lexemes_openObject, lexemes_compactMembers members rest]
    rfl

theorem lexemes_compactItems : (items : List Value) → (rest : List Char) →
    lexemes (Value.compactItems items ++ rest) = (Items.ofValues items).words ++ lexemes rest
  | [], rest => lexemes_closeArray rest
  | item :: more, rest => by
    rw [Value.compactItems, List.append_assoc,
      spelledBy_compact item _ (endsNumber_compactMoreItems more rest),
      lexemes_compactMoreItems more rest, ← List.append_assoc]
    rfl

theorem lexemes_compactMoreItems : (items : List Value) → (rest : List Char) →
    lexemes (Value.compactMoreItems items ++ rest) = (Items.ofValues items).moreWords ++ lexemes rest
  | [], rest => lexemes_closeArray rest
  | item :: more, rest => by
    rw [Value.compactMoreItems, List.cons_append, List.cons_append, List.append_assoc, lexemes_comma,
      spelledBy_compact item _ (endsNumber_compactMoreItems more rest),
      lexemes_compactMoreItems more rest, ← List.append_assoc]
    rfl

theorem lexemes_compactMembers : (members : List (String × Value)) → (rest : List Char) →
    lexemes (Value.compactMembers members ++ rest) =
      (Members.ofValues members).words ++ lexemes rest
  | [], rest => lexemes_closeObject rest
  | (name, value) :: more, rest => by
    have split : Value.compactMembers ((name, value) :: more) ++ rest =
        stringText name ++ ':' :: (value.compact ++ (Value.compactMoreMembers more ++ rest)) := by
      simp [Value.compactMembers]
    rw [split, lexemes_stringText, lexemes_colon,
      spelledBy_compact value _ (endsNumber_compactMoreMembers more rest),
      lexemes_compactMoreMembers more rest, ← List.append_assoc]
    rfl

theorem lexemes_compactMoreMembers : (members : List (String × Value)) → (rest : List Char) →
    lexemes (Value.compactMoreMembers members ++ rest) =
      (Members.ofValues members).moreWords ++ lexemes rest
  | [], rest => lexemes_closeObject rest
  | (name, value) :: more, rest => by
    have split : Value.compactMoreMembers ((name, value) :: more) ++ rest =
        ',' :: (stringText name ++ ':' :: (value.compact ++ (Value.compactMoreMembers more ++ rest))) := by
      simp [Value.compactMoreMembers]
    rw [split, lexemes_comma, lexemes_stringText, lexemes_colon,
      spelledBy_compact value _ (endsNumber_compactMoreMembers more rest),
      lexemes_compactMoreMembers more rest, ← List.append_assoc]
    rfl

end

/-! Texts with lines. -/

theorem lexemes_newline (depth : ℕ) (rest : List Char) :
    lexemes (Value.newline depth ++ rest) = lexemes rest := by
  apply lexemes_gap
  unfold Value.newline
  rw [List.forall_mem_cons]
  refine ⟨rfl, fun c member => ?_⟩
  rw [List.eq_of_mem_replicate member]
  rfl

theorem endsNumber_prettyMoreItems (depth : ℕ) (items : List Value) (rest : List Char) :
    EndsNumber (Value.prettyMoreItems depth items ++ rest) := by
  cases items <;> exact endsNumber_cons (by decide) _

theorem endsNumber_prettyMoreMembers (depth : ℕ) (members : List (String × Value)) (rest : List Char) :
    EndsNumber (Value.prettyMoreMembers depth members ++ rest) := by
  cases members <;> exact endsNumber_cons (by decide) _

mutual

theorem spelledBy_pretty : (v : Value) → (depth : ℕ) → (Node.ofValue v).SpelledBy (v.pretty depth)
  | .null, _ => Node.spelledBy_null
  | .bool b, _ => Node.spelledBy_bool b
  | .number (.integer n), _ => Node.spelledBy_ofInt n
  | .number (.float x), _ => Node.spelledBy_ofFloat x
  | .string s, _ => Node.spelledBy_ofText s
  | .array items, depth => by
    intro rest _
    rw [Value.pretty, List.cons_append, lexemes_openArray, lexemes_prettyItems items depth rest]
    rfl
  | .object members, depth => by
    intro rest _
    rw [Value.pretty, List.cons_append, lexemes_openObject, lexemes_prettyMembers members depth rest]
    rfl

theorem lexemes_prettyItems : (items : List Value) → (depth : ℕ) → (rest : List Char) →
    lexemes (Value.prettyItems depth items ++ rest) = (Items.ofValues items).words ++ lexemes rest
  | [], _, rest => lexemes_closeArray rest
  | item :: more, depth, rest => by
    rw [Value.prettyItems, List.append_assoc, List.append_assoc, lexemes_newline,
      spelledBy_pretty item _ _ (endsNumber_prettyMoreItems depth more rest),
      lexemes_prettyMoreItems more depth rest, ← List.append_assoc]
    rfl

theorem lexemes_prettyMoreItems : (items : List Value) → (depth : ℕ) → (rest : List Char) →
    lexemes (Value.prettyMoreItems depth items ++ rest) =
      (Items.ofValues items).moreWords ++ lexemes rest
  | [], depth, rest => by
    rw [Value.prettyMoreItems, List.append_assoc, lexemes_newline]
    exact lexemes_closeArray rest
  | item :: more, depth, rest => by
    have split : Value.prettyMoreItems depth (item :: more) ++ rest =
        ',' :: (Value.newline (depth + 1) ++ (item.pretty (depth + 1) ++
          (Value.prettyMoreItems depth more ++ rest))) := by
      simp [Value.prettyMoreItems]
    rw [split, lexemes_comma, lexemes_newline,
      spelledBy_pretty item _ _ (endsNumber_prettyMoreItems depth more rest),
      lexemes_prettyMoreItems more depth rest, ← List.append_assoc]
    rfl

theorem lexemes_prettyMembers : (members : List (String × Value)) → (depth : ℕ) → (rest : List Char) →
    lexemes (Value.prettyMembers depth members ++ rest) =
      (Members.ofValues members).words ++ lexemes rest
  | [], _, rest => lexemes_closeObject rest
  | (name, value) :: more, depth, rest => by
    have split : Value.prettyMembers depth ((name, value) :: more) ++ rest =
        Value.newline (depth + 1) ++ (stringText name ++ ':' :: ([' '] ++ (value.pretty (depth + 1) ++
          (Value.prettyMoreMembers depth more ++ rest)))) := by
      simp [Value.prettyMembers]
    rw [split, lexemes_newline, lexemes_stringText, lexemes_colon,
      lexemes_gap (List.forall_mem_singleton.2 rfl),
      spelledBy_pretty value _ _ (endsNumber_prettyMoreMembers depth more rest),
      lexemes_prettyMoreMembers more depth rest, ← List.append_assoc]
    rfl

theorem lexemes_prettyMoreMembers : (members : List (String × Value)) → (depth : ℕ) →
    (rest : List Char) →
    lexemes (Value.prettyMoreMembers depth members ++ rest) =
      (Members.ofValues members).moreWords ++ lexemes rest
  | [], depth, rest => by
    rw [Value.prettyMoreMembers, List.append_assoc, lexemes_newline]
    exact lexemes_closeObject rest
  | (name, value) :: more, depth, rest => by
    have split : Value.prettyMoreMembers depth ((name, value) :: more) ++ rest =
        ',' :: (Value.newline (depth + 1) ++ (stringText name ++ ':' :: ([' '] ++
          (value.pretty (depth + 1) ++ (Value.prettyMoreMembers depth more ++ rest))))) := by
      simp [Value.prettyMoreMembers]
    rw [split, lexemes_comma, lexemes_newline, lexemes_stringText, lexemes_colon,
      lexemes_gap (List.forall_mem_singleton.2 rfl),
      spelledBy_pretty value _ _ (endsNumber_prettyMoreMembers depth more rest),
      lexemes_prettyMoreMembers more depth rest, ← List.append_assoc]
    rfl

end

/-! Reading what was written. -/

/-- The ways to write a value, with blanks behind it. -/
def Value.IsWritten (v : Value) (text : String) : Prop :=
  ∃ gap : List Char, (∀ c ∈ gap, isSpace c = true) ∧
    (text.toList = v.compact ++ gap ∨ ∃ depth, text.toList = v.pretty depth ++ gap)

theorem endsNumber_gap {gap : List Char} (blank : ∀ c ∈ gap, isSpace c = true) : EndsNumber gap := by
  intro c front
  have space := blank c (List.mem_of_head? front)
  simp only [isSpace, Bool.or_eq_true, beq_iff_eq] at space
  rcases space with ((rfl | rfl) | rfl) | rfl <;> decide

/-- Whoever reads the text of a value reads its tree. -/
theorem readText_of_isWritten {α : Type} {v : Value} {text : String} (written : v.IsWritten text)
    (read : Node → Read α) : readText read text = read (.ofValue v) := by
  obtain ⟨gap, blank, text_eq⟩ := written
  apply readText_eq (Node.whole_ofValue v)
  have ends := endsNumber_gap blank
  have none : lexemes gap = [] := by
    have := lexemes_gap blank []
    rwa [List.append_nil, lexemes] at this
  rcases text_eq with compact | ⟨depth, pretty⟩
  · rw [compact, spelledBy_compact v gap ends, none, List.append_nil]
  · rw [pretty, spelledBy_pretty v depth gap ends, none, List.append_nil]

theorem isWritten_compactText (v : Value) : v.IsWritten v.compactText :=
  ⟨[], List.forall_mem_nil _, .inl (by rw [Value.compactText, String.toList_ofList, List.append_nil])⟩

theorem isWritten_prettyText (v : Value) : v.IsWritten v.prettyText :=
  ⟨[], List.forall_mem_nil _,
    .inr ⟨0, by rw [Value.prettyText, String.toList_ofList, List.append_nil]⟩⟩

/-- A line break may follow. -/
theorem isWritten_prettyLine (v : Value) : v.IsWritten (v.prettyText ++ "\n") :=
  ⟨['\n'], List.forall_mem_singleton.2 rfl,
    .inr ⟨0, by rw [Value.prettyText, String.toList_append, String.toList_ofList]; rfl⟩⟩

end Outlay.Json
