import Outlay.Toml.Document

/-!
# Sections make up tables

The statements of sections, taken one after the other, make one table for each section, as long as no
name stands twice.
-/

namespace Outlay.Toml

namespace Entries

variable {key : String} {entries : Entries}

theorem alter_of_forall_ne (f : Option Item → Option Item) (new : ∀ entry ∈ entries, entry.1 ≠ key) :
    entries.alter key f = (f none).map fun item => entries ++ [(key, item)] := by
  induction entries with
  | nil => rfl
  | cons entry entries ih =>
    rw [List.forall_mem_cons] at new
    rw [alter, if_neg new.1, ih new.2, Option.map_map]
    rfl

/-- The first entry of a key is the one that is changed. -/
theorem alter_append (f : Option Item → Option Item) (item : Item) (later : Entries)
    (new : ∀ entry ∈ entries, entry.1 ≠ key) :
    alter key f (entries ++ (key, item) :: later) =
      (f (some item)).map fun item => entries ++ (key, item) :: later := by
  induction entries with
  | nil => exact if_pos rfl
  | cons entry entries ih =>
    rw [List.forall_mem_cons] at new
    rw [List.cons_append, alter, if_neg new.1, ih new.2, Option.map_map]
    rfl

theorem assign_of_forall_ne (v : Value) (new : ∀ entry ∈ entries, entry.1 ≠ key) :
    assign v [key] entries = some (entries ++ [(key, .value v)]) := by
  rw [assign, alter_of_forall_ne _ new]
  rfl

end Entries

namespace Draft

variable {root : Entries} {name : String}

theorem add_header (opened : Key) (new : ∀ entry ∈ root, entry.1 ≠ name) :
    add ⟨root, opened⟩ (.header [name]) = some ⟨root ++ [(name, .table .defined [])], [name]⟩ := by
  simp only [add, Entries.follow, Entries.alter_of_forall_ne _ new]
  rfl

theorem add_assign {entries : Entries} {key : String} (v : Value) (last : ∀ entry ∈ root, entry.1 ≠ name)
    (new : ∀ entry ∈ entries, entry.1 ≠ key) :
    add ⟨root ++ [(name, .table .defined entries)], [name]⟩ (.assign [key] v) =
      some ⟨root ++ [(name, .table .defined (entries ++ [(key, .value v)]))], [name]⟩ := by
  simp only [add, Entries.follow, Entries.alter_append _ _ _ last, Entries.inside,
    Entries.assign_of_forall_ne v new, Option.map_some]

end Draft

/-- What an entry of a section sets. -/
def entryStatement (entry : String × Scalar) : Statement := .assign [entry.1] (.scalar entry.2)

/-- What a section sets. -/
def sectionStatements (s : Section) : List Statement := .header [s.1] :: s.2.map entryStatement

def entryItem (entry : String × Scalar) : String × Item := (entry.1, .value (.scalar entry.2))

def sectionItem (s : Section) : String × Item := (s.1, .table .defined (s.2.map entryItem))

/-- The table of a section. -/
def sectionTable (s : Section) : String × Value :=
  (s.1, .table (s.2.map fun entry => (entry.1, .scalar entry.2)))

section

variable {root : Entries} {s : Section}

theorem foldlM_add_entries {entries : List (String × Scalar)} {done : Entries} {name : String}
    (last : ∀ entry ∈ root, entry.1 ≠ name)
    (new : ∀ entry ∈ entries, ∀ old ∈ done, old.1 ≠ entry.1) (keys : entries.Pairwise (·.1 ≠ ·.1)) :
    (entries.map entryStatement).foldlM Draft.add ⟨root ++ [(name, .table .defined done)], [name]⟩ =
      some ⟨root ++ [(name, .table .defined (done ++ entries.map entryItem))], [name]⟩ := by
  induction entries generalizing done with
  | nil => simp
  | cons entry entries ih =>
    rw [List.forall_mem_cons] at new
    obtain ⟨differ, later⟩ := List.pairwise_cons.1 keys
    have fresh : ∀ other ∈ entries, ∀ old ∈ done ++ [entryItem entry], old.1 ≠ other.1 := by
      intro other member old found
      rcases List.mem_append.1 found with before | single
      · exact new.2 other member old before
      · rw [List.mem_singleton.1 single]
        exact differ other member
    have added := Draft.add_assign (.scalar entry.2) last new.1
    have rest := ih fresh later
    rw [List.map_cons, List.foldlM_cons, entryStatement, added, Option.bind_eq_bind, Option.bind_some]
    rw [List.append_assoc] at rest
    exact rest

theorem foldlM_add_sectionStatements (opened : Key) (new : ∀ entry ∈ root, entry.1 ≠ s.1)
    (keys : s.2.Pairwise (·.1 ≠ ·.1)) :
    (sectionStatements s).foldlM Draft.add ⟨root, opened⟩ =
      some ⟨root ++ [sectionItem s], [s.1]⟩ := by
  rw [sectionStatements, List.foldlM_cons, Draft.add_header opened new, Option.bind_eq_bind,
    Option.bind_some, foldlM_add_entries new (by simp) keys]
  rfl

end

theorem exists_foldlM_add {sections : List Section} {root : Entries} (opened : Key)
    (new : ∀ s ∈ sections, ∀ entry ∈ root, entry.1 ≠ s.1) (names : sections.Pairwise (·.1 ≠ ·.1))
    (keys : ∀ s ∈ sections, s.2.Pairwise (·.1 ≠ ·.1)) :
    ∃ last, (sections.flatMap sectionStatements).foldlM Draft.add ⟨root, opened⟩ =
      some ⟨root ++ sections.map sectionItem, last⟩ := by
  induction sections generalizing root opened with
  | nil => exact ⟨opened, by simp⟩
  | cons s sections ih =>
    rw [List.forall_mem_cons] at new keys
    obtain ⟨differ, later⟩ := List.pairwise_cons.1 names
    have fresh : ∀ t ∈ sections, ∀ entry ∈ root ++ [sectionItem s], entry.1 ≠ t.1 := by
      intro t member entry found
      rcases List.mem_append.1 found with before | single
      · exact new.2 t member entry before
      · rw [List.mem_singleton.1 single]
        exact differ t member
    obtain ⟨last, rest⟩ := ih [s.1] fresh later keys.2
    refine ⟨last, ?_⟩
    rw [List.flatMap_cons, List.foldlM_append, foldlM_add_sectionStatements opened new.1 keys.1,
      Option.bind_eq_bind, Option.bind_some, rest, List.map_cons, List.append_assoc]
    rfl

theorem entryValues_eq_map (entries : Entries) :
    entryValues entries = entries.map fun entry => (entry.1, entry.2.toValue) := by
  induction entries with
  | nil => rfl
  | cons entry entries ih => exact congrArg (_ :: ·) ih

theorem tableOf?_sectionStatements {sections : List Section} (names : sections.Pairwise (·.1 ≠ ·.1))
    (keys : ∀ s ∈ sections, s.2.Pairwise (·.1 ≠ ·.1)) :
    tableOf? (sections.flatMap sectionStatements) = some (sections.map sectionTable) := by
  have new : ∀ s ∈ sections, ∀ entry ∈ ([] : Entries), entry.1 ≠ s.1 := by simp
  obtain ⟨last, made⟩ := exists_foldlM_add [] new names keys
  rw [tableOf?, made, Option.bind_eq_bind, Option.bind_some, List.nil_append]
  simp [entryValues_eq_map, Function.comp_def, sectionItem, sectionTable, entryItem, Item.toValue]

end Outlay.Toml
