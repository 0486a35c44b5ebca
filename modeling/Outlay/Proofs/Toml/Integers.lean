import Outlay.Proofs.Toml.Table

/-!
# What holds of every scalar that is read

Whatever the tables of a document are put together from, the scalars in them are those that were read,
and an integer among them has 64 bits.
-/

namespace Outlay.Toml

variable {P : Scalar → Prop}

/-- Every scalar in a value has the property. -/
inductive Value.All (P : Scalar → Prop) : Value → Prop where
  | scalar {s : Scalar} (holds : P s) : All P (.scalar s)
  | array {items : List Value} (holds : ∀ v ∈ items, All P v) : All P (.array items)
  | table {entries : List (String × Value)} (holds : ∀ entry ∈ entries, All P entry.2) :
      All P (.table entries)

/-- Every scalar in what a key stands for has the property. -/
inductive Item.All (P : Scalar → Prop) : Item → Prop where
  | value {v : Value} (holds : v.All P) : All P (.value v)
  | table {origin : Origin} {entries : Entries} (holds : ∀ entry ∈ entries, All P entry.2) :
      All P (.table origin entries)
  | tables {elements : List Entries} (holds : ∀ entries ∈ elements, ∀ entry ∈ entries, All P entry.2) :
      All P (.tables elements)

theorem Value.All.entries {entries : List (String × Value)} (all : (Value.table entries).All P) :
    ∀ entry ∈ entries, entry.2.All P := by
  cases all with
  | table holds => exact holds

theorem Value.All.items {items : List Value} (all : (Value.array items).All P) :
    ∀ v ∈ items, v.All P := by
  cases all with
  | array holds => exact holds

theorem Value.All.holds {s : Scalar} (all : (Value.scalar s).All P) : P s := by
  cases all with
  | scalar holds => exact holds

/-! Tables that grow. -/

namespace Entries

def All (P : Scalar → Prop) (entries : Entries) : Prop := ∀ entry ∈ entries, entry.2.All P

/-- A change of what a key stands for that brings in no scalar without the property. -/
def KeepsItem (P : Scalar → Prop) (f : Option Item → Option Item) : Prop :=
  ∀ old new, (∀ item ∈ old, item.All P) → f old = some new → new.All P

/-- A change of a table that brings in no scalar without the property. -/
def Keeps (P : Scalar → Prop) (f : Entries → Option Entries) : Prop :=
  ∀ entries after, entries.All P → f entries = some after → after.All P

theorem all_nil : Entries.All P [] := fun _ member => nomatch member

theorem keeps_alter {f : Option Item → Option Item} (kept : KeepsItem P f) (key : String) :
    Keeps P (alter key f) := by
  intro entries
  induction entries with
  | nil =>
    intro after _ altered
    obtain ⟨item, new, rfl⟩ := Option.map_eq_some_iff.1 altered
    exact List.forall_mem_singleton.2 (kept none item (by simp) new)
  | cons entry entries ih =>
    intro after all altered
    obtain ⟨first, later⟩ := List.forall_mem_cons.1 all
    rw [alter] at altered
    split at altered
    · obtain ⟨item, new, rfl⟩ := Option.map_eq_some_iff.1 altered
      exact List.forall_mem_cons.2 ⟨kept (some entry.2) item (by simpa using first) new, later⟩
    · obtain ⟨rest, changed, rfl⟩ := Option.map_eq_some_iff.1 altered
      exact List.forall_mem_cons.2 ⟨first, ih rest later changed⟩

theorem all_onLast {f : Entries → Option Entries} (kept : Keeps P f) {elements after : List Entries}
    (all : ∀ entries ∈ elements, entries.All P) (changed : onLast f elements = some after) :
    ∀ entries ∈ after, entries.All P := by
  fun_induction onLast f elements generalizing after with
  | case1 => cases changed
  | case2 entries =>
    obtain ⟨last, done, rfl⟩ := Option.map_eq_some_iff.1 changed
    exact List.forall_mem_singleton.2 (kept entries last (all entries List.mem_cons_self) done)
  | case3 entries elements _ ih =>
    obtain ⟨rest, done, rfl⟩ := Option.map_eq_some_iff.1 changed
    obtain ⟨first, later⟩ := List.forall_mem_cons.1 all
    exact List.forall_mem_cons.2 ⟨first, ih later done⟩

/-- A change of the tables inside is one of the table around them. -/
theorem Keeps.map_table {f : Entries → Option Entries} (kept : Keeps P f) {origin origin' : Origin}
    {entries : Entries} {new : Item} (all : (Item.table origin entries).All P)
    (changed : (f entries).map (Item.table origin') = some new) : new.All P := by
  obtain ⟨after, done, rfl⟩ := Option.map_eq_some_iff.1 changed
  cases all with
  | table holds => exact .table (kept entries after holds done)

theorem Keeps.map_tables {f : Entries → Option Entries} (kept : Keeps P f) {elements : List Entries}
    {new : Item} (all : (Item.tables elements).All P)
    (changed : (onLast f elements).map Item.tables = some new) : new.All P := by
  obtain ⟨after, done, rfl⟩ := Option.map_eq_some_iff.1 changed
  cases all with
  | tables holds => exact .tables (all_onLast kept holds done)

theorem Keeps.inside {f : Entries → Option Entries} (kept : Keeps P f) :
    KeepsItem P (Entries.inside f) := by
  intro old new all changed
  unfold Entries.inside at changed
  split at changed
  · exact kept.map_table (all _ rfl) changed
  · exact kept.map_tables (all _ rfl) changed
  · cases changed

theorem keeps_assign {v : Value} (holds : v.All P) (key : Key) : Keeps P (assign v key) := by
  -- A table that the key makes on its way is empty at first.
  have none : (Item.table .dotted []).All P := .table all_nil
  match key with
  | [] => exact fun _ _ _ changed => nomatch changed
  | [key] =>
    refine keeps_alter (fun old new _ changed => ?_) key
    obtain ⟨-, same⟩ := Option.ite_none_right_eq_some.1 changed
    rw [← Option.some.inj same]
    exact .value holds
  | key :: next :: path =>
    have inner := keeps_assign holds (next :: path)
    refine keeps_alter (fun old new all changed => ?_) key
    split at changed
    · exact inner.map_table none changed
    · exact inner.map_table (all _ rfl) changed
    · split at changed
      · cases changed
      · exact inner.map_table (all _ rfl) changed
    · split at changed
      · cases changed
      · exact inner.map_tables (all _ rfl) changed
    · cases changed

theorem KeepsItem.follow {f : Option Item → Option Item} (kept : KeepsItem P f) (key : Key) :
    Keeps P (Entries.follow f key) := by
  have none : (Item.table .implied []).All P := .table all_nil
  match key with
  | [] => exact fun _ _ _ changed => nomatch changed
  | [key] => exact keeps_alter kept key
  | key :: next :: path =>
    have inner := kept.follow (next :: path)
    refine keeps_alter (fun old new all changed => ?_) key
    split at changed
    · exact inner.map_table none changed
    · exact inner.map_table (all _ rfl) changed
    · exact inner.map_tables (all _ rfl) changed
    · cases changed

theorem keepsItem_define : KeepsItem P define := by
  intro old new all changed
  unfold define at changed
  split at changed
  · rw [← Option.some.inj changed]
    exact .table all_nil
  · rw [← Option.some.inj changed]
    cases all _ rfl with
    | table holds => exact .table holds
  · cases changed

theorem keepsItem_extend : KeepsItem P extend := by
  intro old new all changed
  unfold extend at changed
  split at changed
  · rw [← Option.some.inj changed]
    exact .tables (List.forall_mem_singleton.2 all_nil)
  · rw [← Option.some.inj changed]
    cases all _ rfl with
    | tables holds =>
      exact .tables (List.forall_mem_append.2 ⟨holds, List.forall_mem_singleton.2 all_nil⟩)
  · cases changed

end Entries

theorem elementValues_eq_map (elements : List Entries) :
    elementValues elements = elements.map fun entries => .table (entryValues entries) := by
  induction elements with
  | nil => rfl
  | cons entries elements ih => exact congrArg (_ :: ·) ih

theorem Item.All.toValue {item : Item} (all : item.All P) : item.toValue.All P := by
  have entryValues_all {entries : Entries} (each : ∀ entry ∈ entries, entry.2.toValue.All P) :
      (Value.table (entryValues entries)).All P := by
    rw [entryValues_eq_map]
    exact .table (List.forall_mem_map.2 each)
  induction all with
  | value holds => exact holds
  | table _ ih => exact entryValues_all ih
  | tables _ ih =>
    rw [Item.toValue, elementValues_eq_map]
    exact .array (List.forall_mem_map.2 fun entries member => entryValues_all (ih entries member))

/-! Statements. -/

/-- Every scalar that a statement sets has the property. -/
def Statement.All (P : Scalar → Prop) : Statement → Prop
  | .assign _ v => v.All P
  | .header _ | .element _ => True

theorem Draft.all_add {d after : Draft} {statement : Statement} (all : d.root.All P)
    (holds : statement.All P) (added : d.add statement = some after) : after.root.All P := by
  unfold Draft.add at added
  split at added
  next key v =>
    have inner := Entries.keeps_assign (P := P) holds key
    split at added
    · obtain ⟨root, changed, rfl⟩ := Option.map_eq_some_iff.1 added
      exact inner _ _ all changed
    · obtain ⟨root, changed, rfl⟩ := Option.map_eq_some_iff.1 added
      exact inner.inside.follow _ _ _ all changed
  next =>
    obtain ⟨root, changed, rfl⟩ := Option.map_eq_some_iff.1 added
    exact Entries.keepsItem_define.follow _ _ _ all changed
  next =>
    obtain ⟨root, changed, rfl⟩ := Option.map_eq_some_iff.1 added
    exact Entries.keepsItem_extend.follow _ _ _ all changed

theorem Draft.all_foldlM_add {statements : List Statement} {d after : Draft} (all : d.root.All P)
    (holds : ∀ statement ∈ statements, statement.All P)
    (added : statements.foldlM Draft.add d = some after) : after.root.All P := by
  induction statements generalizing d with
  | nil => exact Option.some.inj added ▸ all
  | cons statement statements ih =>
    rw [List.forall_mem_cons] at holds
    rw [List.foldlM_cons, Option.bind_eq_bind, Option.bind_eq_some_iff] at added
    obtain ⟨next, first, rest⟩ := added
    exact ih (Draft.all_add all holds.1 first) holds.2 rest

theorem all_tableOf? {statements : List Statement} {entries : List (String × Value)}
    (holds : ∀ statement ∈ statements, statement.All P) (made : tableOf? statements = some entries) :
    (Value.table entries).All P := by
  rw [tableOf?, Option.bind_eq_bind, Option.bind_eq_some_iff] at made
  obtain ⟨d, added, same⟩ := made
  rw [← Option.some.inj same]
  have root := Draft.all_foldlM_add (d := {}) Entries.all_nil holds added
  exact Item.All.toValue (.table root : (Item.table .defined d.root).All P)

theorem all_inlineTable? {pairs : List (Key × Value)} {entries : List (String × Value)}
    (holds : ∀ pair ∈ pairs, pair.2.All P) (made : inlineTable? pairs = some entries) :
    (Value.table entries).All P :=
  all_tableOf? (List.forall_mem_map.2 holds) made

/-! Readers. -/

/-- All that is read has the property. -/
def Yields {α : Type} (Q : α → Prop) (read : List Char → Scan α) : Prop :=
  ∀ s a rest, read s = some (a, rest) → Q a

theorem exists_of_map_eq_some {α β : Type} {found : Scan α} {f : α → β} {b : β} {rest : List Char}
    (h : found.map (fun (a, after) => (f a, after)) = some (b, rest)) :
    ∃ a, found = some (a, rest) ∧ f a = b := by
  obtain ⟨⟨a, after⟩, found, same⟩ := Option.map_eq_some_iff.1 h
  obtain ⟨rfl, rfl⟩ := Prod.mk.inj same
  exact ⟨a, found, rfl⟩

section

variable {item : List Char → Scan Value} (each : Yields (Value.All P) item)

include each

theorem yields_readItems : Yields (fun items => ∀ v ∈ items, v.All P) (readItems item) := by
  intro s
  induction s using readItems.induct with
  | case1 s after empty =>
    intro items rest read
    rw [readItems, empty] at read
    obtain ⟨rfl, -⟩ := Prod.mk.inj (Option.some.inj read)
    exact fun _ member => nomatch member
  | case2 s more ih =>
    intro items rest read
    rw [readItems] at read
    split at read
    next empty => exact absurd empty (more _)
    next =>
      obtain ⟨⟨v, behind⟩, found, read⟩ := Option.bind_eq_some_iff.1 read
      have first := each _ v behind found
      dsimp only at read
      split at read
      · obtain ⟨rfl, -⟩ := Prod.mk.inj (Option.some.inj read)
        exact List.forall_mem_singleton.2 first
      · obtain ⟨shorter, read⟩ := Option.ite_none_right_eq_some.1 read
        obtain ⟨others, found, rfl⟩ := exists_of_map_eq_some (f := (v :: ·)) read
        exact List.forall_mem_cons.2 ⟨first, ih _ shorter others rest found⟩
      · cases read

theorem yields_readPair : Yields (fun pair => pair.2.All P) (readPair item) := by
  intro s pair rest read
  rw [readPair, Option.bind_eq_some_iff] at read
  obtain ⟨⟨key, after⟩, -, read⟩ := read
  dsimp only at read
  split at read
  · obtain ⟨v, found, rfl⟩ := exists_of_map_eq_some (f := (key, ·)) read
    exact each _ v rest found
  · cases read

theorem yields_readPairs : Yields (fun pairs => ∀ pair ∈ pairs, pair.2.All P) (readPairs item) := by
  intro s
  induction s using readPairs.induct with
  | case1 s ih =>
    intro pairs rest read
    rw [readPairs, Option.bind_eq_some_iff] at read
    obtain ⟨⟨pair, behind⟩, found, read⟩ := read
    have first := yields_readPair each _ pair behind found
    dsimp only at read
    split at read
    · obtain ⟨rfl, -⟩ := Prod.mk.inj (Option.some.inj read)
      exact List.forall_mem_singleton.2 first
    · obtain ⟨shorter, read⟩ := Option.ite_none_right_eq_some.1 read
      obtain ⟨others, found, rfl⟩ := exists_of_map_eq_some (f := (pair :: ·)) read
      exact List.forall_mem_cons.2 ⟨first, ih _ shorter others rest found⟩
    · cases read

theorem yields_readInline : Yields (Value.All P) (readInline item) := by
  intro s v rest read
  unfold readInline at read
  split at read
  · obtain ⟨rfl, -⟩ := Prod.mk.inj (Option.some.inj read)
    exact .table fun _ member => nomatch member
  · obtain ⟨⟨pairs, after⟩, found, read⟩ := Option.bind_eq_some_iff.1 read
    dsimp only at read
    obtain ⟨entries, made, same⟩ := Option.map_eq_some_iff.1 read
    obtain ⟨rfl, -⟩ := Prod.mk.inj same
    exact all_inlineTable? (yields_readPairs each _ pairs after found) made

end

theorem yields_readValue (scalars : Yields P Scalar.read) (room : Nat) :
    Yields (Value.All P) (readValue room) := by
  have scalar {s rest : List Char} {v : Value} (read : readValue 0 s = some (v, rest)) : v.All P := by
    obtain ⟨x, found, rfl⟩ := exists_of_map_eq_some read
    exact .scalar (scalars s x rest found)
  induction room with
  | zero => exact fun s v rest read => scalar read
  | succ room ih =>
    intro s v rest read
    unfold readValue at read
    split at read
    · obtain ⟨items, found, rfl⟩ := exists_of_map_eq_some read
      exact .array (yields_readItems ih _ items rest found)
    · exact yields_readInline ih _ v rest read
    · exact scalar read

theorem yields_readStatement (scalars : Yields P Scalar.read) :
    Yields (Statement.All P) readStatement := by
  intro s statement rest read
  unfold readStatement at read
  split at read
  · obtain ⟨⟨key, behind⟩, -, read⟩ := Option.bind_eq_some_iff.1 read
    dsimp only at read
    split at read
    · obtain ⟨_, -, same⟩ := Option.map_eq_some_iff.1 read
      exact (Prod.mk.inj same).1 ▸ trivial
    · cases read
  · obtain ⟨⟨key, behind⟩, -, read⟩ := Option.bind_eq_some_iff.1 read
    dsimp only at read
    split at read
    · obtain ⟨_, -, same⟩ := Option.map_eq_some_iff.1 read
      exact (Prod.mk.inj same).1 ▸ trivial
    · cases read
  · obtain ⟨⟨⟨key, v⟩, behind⟩, found, read⟩ := Option.bind_eq_some_iff.1 read
    dsimp only at read
    obtain ⟨_, -, same⟩ := Option.map_eq_some_iff.1 read
    have holds := yields_readPair (yields_readValue scalars depthLimit) s (key, v) behind found
    exact (Prod.mk.inj same).1 ▸ holds

theorem all_readStatements (scalars : Yields P Scalar.read) {s : List Char} {statements : List Statement}
    (read : readStatements s = some statements) : ∀ statement ∈ statements, statement.All P := by
  induction s using readStatements.induct generalizing statements with
  | case1 s none =>
    rw [readStatements, none] at read
    exact Option.some.inj read ▸ fun _ member => nomatch member
  | case2 s some ih =>
    rw [readStatements] at read
    split at read
    next none => exact absurd none some
    next =>
      obtain ⟨⟨statement, behind⟩, found, read⟩ := Option.bind_eq_some_iff.1 read
      dsimp only at read
      obtain ⟨shorter, read⟩ := Option.ite_none_right_eq_some.1 read
      obtain ⟨others, rest, rfl⟩ := Option.map_eq_some_iff.1 read
      have first := yields_readStatement scalars _ statement behind found
      exact List.forall_mem_cons.2 ⟨first, ih _ shorter rest⟩

theorem all_read? (scalars : Yields P Scalar.read) {text : String} {entries : List (String × Value)}
    (read : read? text = some entries) : (Value.table entries).All P := by
  obtain ⟨statements, found, made⟩ := Option.bind_eq_some_iff.1 read
  exact all_tableOf? (all_readStatements scalars found) made

/-! Integers. -/

/-- An integer has 64 bits. -/
def Scalar.IsBounded (v : Scalar) : Prop := ∀ n, v = .integer n → isInt64 n = true

theorem isInt64_of_inRange? {m n : Int} (kept : inRange? m = some n) : isInt64 n = true := by
  obtain ⟨bounds, same⟩ := Option.ite_none_right_eq_some.1 kept
  exact Option.some.inj same ▸ bounds

theorem isInt64_of_integer? {s : List Char} {n : Int} (read : integer? s = some n) :
    isInt64 n = true := by
  unfold integer? at read
  split at read
  -- Whatever the base, the number that was read is checked at the end.
  all_goals
    simp only [Option.bind_eq_bind, Option.bind_eq_some_iff] at read
  · obtain ⟨_, _, _, _, kept⟩ := read
    exact isInt64_of_inRange? kept
  · obtain ⟨_, -, kept⟩ := read
    exact isInt64_of_inRange? kept
  · obtain ⟨_, -, kept⟩ := read
    exact isInt64_of_inRange? kept
  · obtain ⟨_, -, kept⟩ := read
    exact isInt64_of_inRange? kept

theorem isBounded_of_ofWord? {s : List Char} {v : Scalar} (read : Scalar.ofWord? s = some v) :
    v.IsBounded := by
  rintro n rfl
  unfold Scalar.ofWord? at read
  split at read
  · cases read
  · split at read
    · cases read
    · split at read
      · cases read
      · rcases Option.or_eq_some_iff.1 read with whole | ⟨-, float⟩
        · obtain ⟨m, found, same⟩ := Option.map_eq_some_iff.1 whole
          exact Scalar.integer.inj same ▸ isInt64_of_integer? found
        · obtain ⟨x, -, same⟩ := Option.map_eq_some_iff.1 float
          cases same

theorem yields_readWord : Yields Scalar.IsBounded Scalar.readWord := by
  intro s v rest read
  have one {word after : List Char}
      (read : (Scalar.ofWord? word).map (·, after) = some (v, rest)) : v.IsBounded := by
    obtain ⟨x, found, same⟩ := Option.map_eq_some_iff.1 read
    exact (Prod.mk.inj same).1 ▸ isBounded_of_ofWord? found
  unfold Scalar.readWord at read
  dsimp only at read
  split at read
  · split at read
    · obtain ⟨rfl, -⟩ := Prod.mk.inj (Option.some.inj read)
      exact fun _ same => nomatch same
    · exact one read
  · exact one read

theorem yields_read : Yields Scalar.IsBounded Scalar.read := by
  intro s v rest read
  unfold Scalar.read at read
  split at read
  · obtain ⟨text, -, rfl⟩ := exists_of_map_eq_some (f := (Scalar.string <| String.ofList ·)) read
    exact fun _ same => nomatch same
  · obtain ⟨text, -, rfl⟩ := exists_of_map_eq_some (f := (Scalar.string <| String.ofList ·)) read
    exact fun _ same => nomatch same
  · exact yields_readWord s v rest read

end Outlay.Toml
