import Outlay.Proofs.Spending.Groups

/-!
# Finding rows through an index

The row of a key can be looked up in an index, which knows the place of each key that was met. Any store that
answers with what was put in last will do, in whatever order it keeps its entries: the rows are the same.
-/

namespace Outlay.Spending

/-- A store of places, by the keys that stand there. -/
structure KeyIndex where
  Store : Type
  empty : Store
  place? : Store → String → Option Nat
  insert : Store → String → Nat → Store
  place?_empty : ∀ key, place? empty key = none
  place?_insert : ∀ store key place wanted, place? (insert store key place) wanted =
    if key = wanted then some place else place? store wanted

namespace KeyIndex

/-- A hash map is such a store. -/
def hashed : KeyIndex where
  Store := Std.HashMap String Nat
  empty := ∅
  place? store key := store[key]?
  insert store key place := store.insert key place
  place?_empty _ := Std.HashMap.getElem?_empty
  place?_insert store key place wanted := by
    rw [Std.HashMap.getElem?_insert]
    simp only [beq_iff_eq]

variable (index : KeyIndex)

/-- Adds a record to the row of its key, or puts a new one at the end and notes its place. -/
def step (key : Transaction → String) (state : index.Store × List Row) (t : Transaction) :
    index.Store × List Row :=
  match index.place? state.1 (key t) with
  | some place => (state.1, state.2.modify place (·.add t.amount))
  | none => (index.insert state.1 (key t) state.2.length, state.2 ++ [.single (key t) t.amount])

def groupBy (key : Transaction → String) (records : List Transaction) : List Row :=
  (records.foldl (index.step key) (index.empty, [])).2

def allRows (grouping : Grouping) (records : List Transaction) : List Row :=
  match grouping with
  | .each => largestFirst (records.map fun t => Row.single t.description t.amount)
  | .category => largestFirst (index.groupBy (·.category) records)
  | .merchant => largestFirst (index.groupBy (·.description) records)
  | .day => byKey (index.groupBy (fun t => String.ofList t.day.text) records)

def summarize (grouping : Grouping) (limit : Option Nat) (records : List Transaction) : List Row :=
  match limit with
  | some count => (index.allRows grouping records).take count
  | none => index.allRows grouping records

/-- The index answers with the places of the keys in the rows. -/
def Points (state : index.Store × List Row) : Prop :=
  ∀ key, index.place? state.1 key = (state.2.map (·.key)).idxOf? key

end KeyIndex

theorem Row.put_eq_modify {key : String} (amount : Amount) {rows : List Row} {place : Nat}
    (found : (rows.map (·.key)).idxOf? key = some place) :
    put key amount rows = rows.modify place (·.add amount) := by
  induction rows generalizing place with
  | nil => cases found
  | cons r rest ih =>
    rw [List.map_cons, List.idxOf?_cons] at found
    by_cases here : r.key = key
    · rw [if_pos (beq_iff_eq.2 here)] at found
      obtain rfl := Option.some.inj found
      rw [put, if_pos here, List.modify_zero_cons]
    · rw [if_neg (mt beq_iff_eq.1 here)] at found
      obtain ⟨later, foundLater, rfl⟩ := Option.map_eq_some_iff.1 found
      rw [put, if_neg here, ih foundLater, List.modify_succ_cons]

theorem Row.put_eq_append {key : String} (amount : Amount) {rows : List Row}
    (fresh : (rows.map (·.key)).idxOf? key = none) : put key amount rows = rows ++ [single key amount] := by
  induction rows with
  | nil => rfl
  | cons r rest ih =>
    rw [List.idxOf?_eq_none_iff, List.map_cons, List.mem_cons, not_or] at fresh
    rw [put, if_neg (Ne.symm fresh.1), ih (List.idxOf?_eq_none_iff.2 fresh.2), List.cons_append]

theorem idxOf?_append_singleton (keys : List String) (last wanted : String) :
    (keys ++ [last]).idxOf? wanted =
      (keys.idxOf? wanted).or (if last == wanted then some keys.length else none) := by
  simp [List.idxOf?, List.findIdx?_append, Option.map_if]

namespace KeyIndex

variable {index : KeyIndex} {key : Transaction → String} {state : index.Store × List Row}

theorem Points.step_eq (points : index.Points state) (t : Transaction) :
    (index.step key state t).2 = Row.put (key t) t.amount state.2 := by
  unfold step
  cases found : index.place? state.1 (key t) with
  | some place => exact (Row.put_eq_modify t.amount ((points _).symm.trans found)).symm
  | none => exact (Row.put_eq_append t.amount ((points _).symm.trans found)).symm

theorem Points.step (points : index.Points state) (t : Transaction) :
    index.Points (index.step key state t) := by
  intro wanted
  rw [points.step_eq, Row.keys_put, KeyIndex.step]
  cases found : index.place? state.1 (key t) with
  | some place =>
    have known : key t ∈ state.2.map (·.key) := by
      by_contra fresh
      rw [← List.idxOf?_eq_none_iff, ← points, found] at fresh
      cases fresh
    rw [if_pos known]
    exact points wanted
  | none =>
    have fresh : key t ∉ state.2.map (·.key) := by rwa [← List.idxOf?_eq_none_iff, ← points]
    rw [if_neg fresh]
    simp only [index.place?_insert, points wanted, idxOf?_append_singleton, List.length_map]
    by_cases here : key t = wanted
    · subst here
      rw [if_pos rfl, if_pos (beq_self_eq_true _), List.idxOf?_eq_none_iff.2 fresh, Option.none_or]
    · rw [if_neg here, if_neg (mt beq_iff_eq.1 here), Option.or_none]

theorem points_foldl (points : index.Points state) (records : List Transaction) :
    index.Points (records.foldl (index.step key) state) ∧
      (records.foldl (index.step key) state).2 =
        records.foldl (fun rows t => Row.put (key t) t.amount rows) state.2 := by
  induction records generalizing state with
  | nil => exact ⟨points, rfl⟩
  | cons t records ih =>
    obtain ⟨kept, rows⟩ := ih (points.step t)
    refine ⟨kept, rows.trans ?_⟩
    rw [points.step_eq, List.foldl_cons]

/-- The rows do not show which store the index is. -/
theorem groupBy_eq (records : List Transaction) : index.groupBy key records = Spending.groupBy key records :=
  have start : index.Points (index.empty, []) := index.place?_empty
  (points_foldl start records).2

theorem allRows_eq (grouping : Grouping) (records : List Transaction) :
    index.allRows grouping records = Spending.allRows grouping records := by
  cases grouping with
  | each => rfl
  | category => exact congrArg largestFirst (groupBy_eq records)
  | merchant => exact congrArg largestFirst (groupBy_eq records)
  | day => exact congrArg byKey (groupBy_eq records)

theorem summarize_eq (grouping : Grouping) (limit : Option Nat) (records : List Transaction) :
    index.summarize grouping limit records = Spending.summarize grouping limit records := by
  cases limit with
  | none => exact allRows_eq grouping records
  | some count => exact congrArg (List.take count) (allRows_eq grouping records)

end KeyIndex

end Outlay.Spending
