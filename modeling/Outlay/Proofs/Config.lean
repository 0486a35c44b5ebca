import Outlay.Config
import Outlay.Proofs.Toml.Document
import Outlay.Proofs.Toml.Integers

/-!
# Settings are read back

The text of settings is read as the same settings as long as the limit is an integer of TOML, and all
that are read of a text have such a limit.
-/

namespace Outlay

open Spending Toml

namespace Spending.Budgets

theorem insertEntry_of_forall_lt {category : String} (amount : Float) {entries : List (String × Float)}
    (before : ∀ e ∈ entries, e.1 < category) :
    insertEntry category amount entries = entries ++ [(category, amount)] := by
  induction entries with
  | nil => rfl
  | cons e entries ih =>
    rw [List.forall_mem_cons] at before
    rw [insertEntry, if_neg (String.lt_asymm before.1), if_pos before.1, ih before.2]
    rfl

theorem entries_foldl_insert {entries : List (String × Float)} {b : Budgets}
    (sorted : (b.entries ++ entries).Pairwise (·.1 < ·.1)) :
    (entries.foldl (fun b e => b.insert e.1 e.2) b).entries = b.entries ++ entries := by
  induction entries generalizing b with
  | nil => simp
  | cons e entries ih =>
    have before : ∀ old ∈ b.entries, old.1 < e.1 := fun old member =>
      (List.pairwise_append.1 sorted).2.2 old member e List.mem_cons_self
    have inserted : (b.insert e.1 e.2).entries = b.entries ++ [e] :=
      insertEntry_of_forall_lt e.2 before
    rw [List.foldl_cons, ih (by rw [inserted]; simpa using sorted), inserted]
    simp

/-- Entries that are in order are taken as they are. -/
theorem ofList_entries (b : Budgets) : ofList b.entries = b := by
  have entries : (ofList b.entries).entries = b.entries :=
    entries_foldl_insert (b := empty) (by simpa [empty] using b.sorted)
  cases taken : ofList b.entries
  cases b
  simp only [taken] at entries
  subst entries
  rfl

end Spending.Budgets

namespace Config

variable {c : Config}

/-! The text of settings. -/

theorem grouping?_name (g : Grouping) : grouping? (.scalar (.string g.name)) = some g := by
  cases g <;> decide +kernel

theorem mapM_amount? (entries : List (String × Float)) :
    (entries.map fun entry => (entry.1, Value.scalar (.float entry.2))).mapM
      (fun entry => (amount? entry.2).map (entry.1, ·)) = some entries := by
  induction entries with
  | nil => rfl
  | cons entry entries ih =>
    rw [List.map_cons, List.mapM_cons, ih]
    rfl

theorem budgets?_entries (b : Budgets) :
    budgets? (.table (b.entries.map fun entry => (entry.1, .scalar (.float entry.2)))) = some b := by
  rw [budgets?, mapM_amount?, Option.map_some, Budgets.ofList_entries]

theorem ofEntries_sectionTable (c : Config) : ofEntries (c.sections.map sectionTable) = some c := by
  have grouping := grouping?_name c.grouping
  have budgets := budgets?_entries c.budgets
  simp [ofEntries, sections, sectionTable, readTable, fields, List.lookup, setDataFile, setLogLevel,
    setGrouping, setLimit, setBudgets, text?, count?, grouping, budgets, Function.comp_def]

/-- An integer of TOML that is no less than zero. -/
def IsLimit (n : Nat) : Prop := isInt64 n = true

theorem isLimit_iff_lt {n : Nat} : IsLimit n ↔ n < 2 ^ 63 := by
  have least : Int64.minValue.toInt = -2 ^ 63 := by decide
  have largest : Int64.maxValue.toInt = 2 ^ 63 - 1 := by decide
  rw [IsLimit, isInt64, least, largest, Bool.and_eq_true, decide_eq_true_iff, decide_eq_true_iff]
  omega

theorem isLimit_of_lt {n : Nat} (small : n < 2 ^ 63) : IsLimit n := isLimit_iff_lt.2 small

theorem write?_eq_ite (c : Config) : c.write? = if isInt64 c.limit then some c.text else none := by
  have fit : c.sections.all (·.2.all (·.2.fits)) = isInt64 c.limit := by
    simp [sections, Scalar.fits, Function.comp_def]
  rw [write?, sectionsText?, fit, apply_ite (Option.map String.ofList)]
  rfl

theorem write?_eq_some (limit : IsLimit c.limit) : c.write? = some c.text :=
  (write?_eq_ite c).trans (if_pos limit)

theorem write?_eq_none (large : 2 ^ 63 ≤ c.limit) : c.write? = none :=
  (write?_eq_ite c).trans (if_neg fun limit => (isLimit_iff_lt.1 limit).not_ge large)

theorem readsBack_sections (limit : IsLimit c.limit) :
    ∀ s ∈ c.sections, ∀ entry ∈ s.2, entry.2.ReadsBack := by
  simp only [sections, List.forall_mem_cons, List.forall_mem_map]
  exact ⟨⟨readsBack_string _, by simp⟩, ⟨readsBack_string _, by simp⟩,
    ⟨readsBack_string _, readsBack_integer limit, by simp⟩,
    ⟨fun entry _ => readsBack_float entry.2, by simp⟩⟩

theorem pairwise_sections (c : Config) : c.sections.Pairwise (·.1 ≠ ·.1) := by
  simp [sections]

theorem pairwise_keys (c : Config) : ∀ s ∈ c.sections, s.2.Pairwise (·.1 ≠ ·.1) := by
  have budgets : c.budgets.entries.Pairwise (·.1 ≠ ·.1) :=
    c.budgets.sorted.imp fun {a b} (less : a.1 < b.1) (same : a.1 = b.1) =>
      String.lt_irrefl b.1 (same ▸ less)
  simp [sections, List.pairwise_map, budgets]

/-- The text of settings is read as the settings. -/
theorem read?_text (limit : IsLimit c.limit) : read? c.text = some c := by
  have tables := read?_sectionsText (readsBack_sections limit) c.pairwise_sections c.pairwise_keys
  rw [read?, text, tables, Option.bind_some, ofEntries_sectionTable]

/-! Limits that are read. -/

/-- A setting that leaves the limit an integer of TOML. -/
def Setter.KeepsLimit (set : Setter) : Prop :=
  ∀ c v after, IsLimit c.limit → v.All Scalar.IsBounded → set c v = some after → IsLimit after.limit

theorem isLimit_of_foldlM {α : Type} {f : Config → α → Option Config} {xs : List α}
    (kept : ∀ x ∈ xs, ∀ c after, IsLimit c.limit → f c x = some after → IsLimit after.limit)
    {c after : Config} (limit : IsLimit c.limit) (read : xs.foldlM f c = some after) :
    IsLimit after.limit := by
  induction xs generalizing c with
  | nil => exact Option.some.inj read ▸ limit
  | cons x xs ih =>
    rw [List.forall_mem_cons] at kept
    rw [List.foldlM_cons, Option.bind_eq_bind, Option.bind_eq_some_iff] at read
    obtain ⟨next, first, rest⟩ := read
    exact ih kept.2 (kept.1 c next limit first) rest

theorem keepsLimit_readTable {fields : List (String × Setter)}
    (kept : ∀ field ∈ fields, field.2.KeepsLimit) : Setter.KeepsLimit (readTable fields) := by
  intro c v after limit all read
  unfold readTable at read
  split at read
  next entries =>
    refine isLimit_of_foldlM (fun field member c after limit read => ?_) limit read
    -- A field that the table lacks changes nothing.
    cases found : entries.lookup field.1 with
    | none =>
      rw [found] at read
      exact Option.some.inj read ▸ limit
    | some v =>
      rw [found] at read
      have listed : (field.1, v) ∈ entries := by
        obtain ⟨before, behind, rfl, -⟩ := List.lookup_eq_some_iff.1 found
        exact List.mem_append_right _ List.mem_cons_self
      exact kept field member c v after limit (all.entries _ listed) read
  next items =>
    refine isLimit_of_foldlM (fun pair member c after limit read => ?_) limit read
    obtain ⟨field, item⟩ := List.of_mem_zip member
    exact kept _ field c _ after limit (all.items _ item) read
  next => exact Option.some.inj read ▸ limit
  next => cases read

theorem keepsLimit_map {α : Type} (taken? : Value → Option α) (set : Config → α → Config)
    (same : ∀ c a, (set c a).limit = c.limit) :
    Setter.KeepsLimit fun c v => (taken? v).map (set c) := by
  intro c v after limit _ read
  obtain ⟨a, -, rfl⟩ := Option.map_eq_some_iff.1 read
  rwa [same]

theorem keepsLimit_setLimit : Setter.KeepsLimit setLimit := by
  intro c v after _ all read
  obtain ⟨n, counted, rfl⟩ := Option.map_eq_some_iff.1 read
  unfold count? at counted
  split at counted
  next m =>
    obtain ⟨positive, same⟩ := Option.ite_none_right_eq_some.1 counted
    have bounds := all.holds m rfl
    rw [← Option.some.inj same, IsLimit, Int.toNat_of_nonneg positive]
    exact bounds
  next => cases counted

theorem keepsLimit_fields : ∀ field ∈ fields, field.2.KeepsLimit := by
  have dataFile : Setter.KeepsLimit setDataFile := keepsLimit_map text? _ fun _ _ => rfl
  have logLevel : Setter.KeepsLimit setLogLevel := keepsLimit_map text? _ fun _ _ => rfl
  have grouping : Setter.KeepsLimit setGrouping := keepsLimit_map grouping? _ fun _ _ => rfl
  have budgets : Setter.KeepsLimit setBudgets := keepsLimit_map budgets? _ fun _ _ => rfl
  simp only [fields, List.forall_mem_cons]
  refine ⟨keepsLimit_readTable ?_, keepsLimit_readTable ?_, keepsLimit_readTable ?_, budgets, by simp⟩
  · simpa using dataFile
  · simpa using logLevel
  · simpa using ⟨grouping, keepsLimit_setLimit⟩

/-- What is read of a text has a limit that can be written again. -/
theorem isLimit_of_read? {text : String} (read : read? text = some c) : IsLimit c.limit := by
  obtain ⟨entries, found, made⟩ := Option.bind_eq_some_iff.1 read
  exact keepsLimit_readTable keepsLimit_fields {} _ c rfl (all_read? yields_read found) made

end Config

end Outlay
