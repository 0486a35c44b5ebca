import Mathlib
import Outlay.Proofs.Amount
import Outlay.Proofs.Spending.KeyIndex
import Outlay.Proofs.Text.ByteOrder

/-!
# The rows of a summary

The rows of a summary divide the records: each key that occurs has one row, for the records with that key.
Sorting keeps the rows and tells their order, which is that of amounts; rows that tie stay as their keys were
first met.
-/

namespace Outlay.Spending

/-! What rows say of the records. -/

/-- One row for each key: the sum of its records from left to right, starting from the first of them. -/
structure Divides (key : Transaction → String) (records : List Transaction) (rows : List Row) : Prop where
  distinct : (rows.map (·.key)).Nodup
  occurring : ∀ k, k ∈ rows.map (·.key) ↔ k ∈ records.map key
  summed : ∀ row ∈ rows, ∃ first rest, records.filter (key · == row.key) = first :: rest ∧
    row.total = rest.foldl (fun sum t => sum + t.amount) first.amount ∧ row.count = rest.length + 1
  conserved : (rows.map (·.count)).sum = records.length

theorem Divides.of_perm {key : Transaction → String} {records : List Transaction} {rows rows' : List Row}
    (divides : Divides key records rows) (perm : rows.Perm rows') : Divides key records rows' where
  distinct := (perm.map _).nodup_iff.1 divides.distinct
  occurring k := (perm.map _).mem_iff.symm.trans (divides.occurring k)
  summed row member := divides.summed row (perm.mem_iff.2 member)
  conserved := (perm.map _).sum_nat.symm.trans divides.conserved

namespace Row

theorem total_foldl_add (records : List Transaction) (row : Row) :
    (records.foldl (fun row t => row.add t.amount) row).total =
      records.foldl (fun sum t => sum + t.amount) row.total := by
  induction records generalizing row with
  | nil => rfl
  | cons t records ih => exact ih (row.add t.amount)

theorem count_foldl_add (records : List Transaction) (row : Row) :
    (records.foldl (fun row t => row.add t.amount) row).count = row.count + records.length := by
  induction records generalizing row with
  | nil => rfl
  | cons t records ih =>
    rw [List.foldl_cons, ih, List.length_cons, Nat.add_comm records.length, ← Nat.add_assoc]
    rfl

theorem find?_of_mem {rows : List Row} (distinct : (rows.map (·.key)).Nodup) {row : Row}
    (member : row ∈ rows) : rows.find? (·.key == row.key) = some row := by
  cases found : rows.find? (·.key == row.key) with
  | none => exact absurd (List.find?_eq_none.1 found row member) (by simp)
  | some other =>
    have same : other.key = row.key := by simpa using List.find?_some found
    rw [List.inj_on_of_nodup_map distinct (List.mem_of_find?_eq_some found) member same]

theorem sum_counts_put (key : String) (amount : Amount) (rows : List Row) :
    ((put key amount rows).map (·.count)).sum = (rows.map (·.count)).sum + 1 := by
  induction rows with
  | nil => rfl
  | cons r rest ih =>
    unfold put
    split
    · simp only [List.map_cons, List.sum_cons, add]
      omega
    · simp only [List.map_cons, List.sum_cons, ih]
      omega

end Row

section Groups

variable (key : Transaction → String) (records : List Transaction)

theorem mem_keys_groupBy {k : String} :
    k ∈ (groupBy key records).map (·.key) ↔ k ∈ records.map key := by
  induction records using List.reverseRecOn with
  | nil => rfl
  | append_singleton records t ih =>
    rw [groupBy_append, Row.mem_keys_put, ih, List.map_append, List.mem_append, List.map_singleton,
      List.mem_singleton]
    exact or_comm

theorem sum_counts_groupBy : ((groupBy key records).map (·.count)).sum = records.length := by
  induction records using List.reverseRecOn with
  | nil => rfl
  | append_singleton records t ih =>
    rw [groupBy_append, Row.sum_counts_put, ih, List.length_append, List.length_singleton]

theorem divides_groupBy : Divides key records (groupBy key records) where
  distinct := nodup_keys_groupBy key records
  occurring _ := mem_keys_groupBy key records
  summed row member := by
    have found : (groupBy key records).find? (·.key == row.key) = some row :=
      Row.find?_of_mem (nodup_keys_groupBy key records) member
    rw [find?_groupBy] at found
    cases group : records.filter (key · == row.key) with
    | nil =>
      rw [group] at found
      cases found
    | cons first rest =>
      rw [group] at found
      refine ⟨first, rest, rfl, ?_, ?_⟩
      · rw [← Option.some.inj found, Row.total_foldl_add]
        rfl
      · rw [← Option.some.inj found, Row.count_foldl_add, Nat.add_comm]
        rfl
  conserved := sum_counts_groupBy key records

/-- The rows come as their keys are first met. -/
theorem pairwise_keys_groupBy : ((groupBy key records).map (·.key)).Pairwise fun a b =>
    (records.map key).idxOf a < (records.map key).idxOf b := by
  induction records using List.reverseRecOn with
  | nil => exact .nil
  | append_singleton records t ih =>
    have grown : ((groupBy key records).map (·.key)).Pairwise fun a b =>
        ((records ++ [t]).map key).idxOf a < ((records ++ [t]).map key).idxOf b := by
      refine ih.imp_of_mem fun {a b} memberA memberB before => ?_
      rw [mem_keys_groupBy] at memberA memberB
      rwa [List.map_append, List.idxOf_append_of_mem memberA, List.idxOf_append_of_mem memberB]
    rw [groupBy_append, Row.keys_put]
    split
    next => exact grown
    next fresh =>
      refine List.pairwise_append.2 ⟨grown, List.pairwise_singleton _ _, ?_⟩
      intro a member b last
      rw [List.mem_singleton.1 last]
      rw [mem_keys_groupBy] at member fresh
      rw [List.map_append, List.idxOf_append_of_mem member, List.idxOf_append_of_notMem fresh]
      exact Nat.lt_add_right _ (List.idxOf_lt_length_of_mem member)

end Groups

/-! Sorting. -/

theorem zipIdxLE_iff {α : Type} (le : α → α → Bool) (a b : α × Nat) :
    List.zipIdxLE le a b = true ↔ le a.1 b.1 = true ∧ (le b.1 a.1 = true → a.2 ≤ b.2) := by
  unfold List.zipIdxLE
  split
  next ahead =>
    split
    next tie => simp [ahead, tie]
    next apart => simp [ahead, apart]
  next behind => simp [behind]

/-- Sorting by a rank, largest first, goes by the places in the list where ranks are equal. -/
theorem exists_order_mergeSort {α : Type} (rank : α → Int) (l : List α) : ∃ order : List (α × Nat),
    order.Perm l.zipIdx ∧ order.map (·.1) = l.mergeSort (fun a b => rank b ≤ rank a) ∧
      order.Pairwise fun a b => rank b.1 < rank a.1 ∨ rank b.1 = rank a.1 ∧ a.2 < b.2 := by
  let le : α → α → Bool := fun a b => rank b ≤ rank a
  have trans : ∀ a b c, le a b → le b c → le a c := by
    simp only [le, decide_eq_true_eq]
    omega
  have total : ∀ a b, le a b || le b a := by
    simp only [le, Bool.or_eq_true, decide_eq_true_eq]
    omega
  have perm := List.mergeSort_perm l.zipIdx (List.zipIdxLE le)
  have places : ((l.zipIdx.mergeSort (List.zipIdxLE le)).map (·.2)).Nodup := by
    rw [(perm.map _).nodup_iff, List.zipIdx_map_snd]
    exact List.nodup_range'
  have sorted := List.pairwise_mergeSort (List.zipIdxLE_trans trans) (List.zipIdxLE_total total) l.zipIdx
  -- Elements that tie are compared by their places, and these are all different.
  refine ⟨_, perm, List.mergeSort_zipIdx, ?_⟩
  refine (sorted.and (List.pairwise_map.1 places)).imp fun {a b} ⟨before, apart⟩ => ?_
  simp only [zipIdxLE_iff, le, decide_eq_true_eq] at before
  omega

/-- Larger totals first; where totals tie, the key that comes first among the records. Ranks are in the order
of amounts (`Amount.rank_lt_rank_iff`), and only equal amounts tie (`Amount.rank_eq_rank_iff`). -/
def LargestFirst (keys : List String) (rows : List Row) : Prop :=
  rows.Pairwise fun a b => b.total.rank < a.total.rank ∨
    b.total.rank = a.total.rank ∧ keys.idxOf a.key < keys.idxOf b.key

theorem largestFirst_iff {keys : List String} {rows : List Row} :
    LargestFirst keys rows ↔ rows.Pairwise fun a b => b.total.Precedes a.total ∨
      b.total = a.total ∧ keys.idxOf a.key < keys.idxOf b.key := by
  simp only [LargestFirst, Amount.rank_lt_rank_iff, Amount.rank_eq_rank_iff]

theorem largestFirst_perm (rows : List Row) : (largestFirst rows).Perm rows := List.mergeSort_perm _ _

theorem byKey_perm (rows : List Row) : (byKey rows).Perm rows := List.mergeSort_perm _ _

theorem largestFirst_groupBy (key : Transaction → String) (records : List Transaction) :
    LargestFirst (records.map key) (largestFirst (groupBy key records)) := by
  obtain ⟨order, perm, sorted, descends⟩ :=
    exists_order_mergeSort (fun row : Row => row.total.rank) (groupBy key records)
  have met := List.pairwise_iff_getElem.1 (List.pairwise_map.1 (pairwise_keys_groupBy key records))
  rw [LargestFirst, largestFirst, ← sorted, List.pairwise_map]
  refine descends.imp_of_mem fun {a b} memberA memberB => Or.imp_right fun ⟨tie, before⟩ => ⟨tie, ?_⟩
  obtain ⟨i, bound, rfl⟩ := List.mem_iff_getElem.1 (perm.mem_iff.1 memberA)
  obtain ⟨j, bound', rfl⟩ := List.mem_iff_getElem.1 (perm.mem_iff.1 memberB)
  simp only [List.getElem_zipIdx, Nat.zero_add] at before ⊢
  exact met i j _ _ before

theorem byKey_groupBy (key : Transaction → String) (records : List Transaction) :
    (byKey (groupBy key records)).Pairwise fun a b => a.key < b.key := by
  have trans : ∀ a b c : Row, decide (a.key ≤ b.key) → decide (b.key ≤ c.key) → decide (a.key ≤ c.key) := by
    simp only [decide_eq_true_eq]
    exact fun a b c => String.le_trans
  have total : ∀ a b : Row, decide (a.key ≤ b.key) || decide (b.key ≤ a.key) := by
    simp only [Bool.or_eq_true, decide_eq_true_eq]
    exact fun a b => String.le_total _ _
  have sorted := List.pairwise_mergeSort trans total (groupBy key records)
  have distinct := ((byKey_perm _).map _).nodup_iff.2 (nodup_keys_groupBy key records)
  refine (sorted.and (List.pairwise_map.1 distinct)).imp fun {a b} ⟨before, apart⟩ => ?_
  exact by_contra fun notLess => apart (String.le_antisymm (of_decide_eq_true before) notLess)

/-! Summaries. -/

namespace Grouping

/-- What the rows of the records are, and their order. -/
def Lists : Grouping → List Transaction → List Row → Prop
  | each, records, rows => ∃ order : List (Transaction × Nat), order.Perm records.zipIdx ∧
      rows = order.map (fun entry => .single entry.1.description entry.1.amount) ∧
      order.Pairwise fun a b => b.1.amount.rank < a.1.amount.rank ∨
        b.1.amount.rank = a.1.amount.rank ∧ a.2 < b.2
  | category, records, rows =>
      Divides (·.category) records rows ∧ LargestFirst (records.map (·.category)) rows
  | merchant, records, rows =>
      Divides (·.description) records rows ∧ LargestFirst (records.map (·.description)) rows
  | day, records, rows =>
      Divides (fun t => String.ofList t.day.text) records rows ∧
        rows.Pairwise fun a b => Bytes.ofText a.key < Bytes.ofText b.key

theorem lists_largestFirst (records : List Transaction) :
    each.Lists records (largestFirst (records.map fun t => .single t.description t.amount)) := by
  obtain ⟨order, perm, sorted, descends⟩ :=
    exists_order_mergeSort (fun t : Transaction => t.amount.rank) records
  have moved : (records.mergeSort fun a b => b.amount.rank ≤ a.amount.rank).map
      (fun t => Row.single t.description t.amount) =
        largestFirst (records.map fun t => .single t.description t.amount) :=
    List.map_mergeSort fun _ _ _ _ => rfl
  refine ⟨order, perm, ?_, descends⟩
  rw [← moved, ← sorted, List.map_map]
  rfl

theorem lists_allRows (grouping : Grouping) (records : List Transaction) :
    grouping.Lists records (allRows grouping records) := by
  have divides (key : Transaction → String) := divides_groupBy key records
  cases grouping with
  | each => exact lists_largestFirst records
  | category =>
    exact ⟨(divides _).of_perm (largestFirst_perm _).symm, largestFirst_groupBy _ records⟩
  | merchant =>
    exact ⟨(divides _).of_perm (largestFirst_perm _).symm, largestFirst_groupBy _ records⟩
  | day => exact ⟨(divides _).of_perm (byKey_perm _).symm, (byKey_groupBy _ records).imp Bytes.ofText_lt⟩

end Grouping

/-- A summary lists the rows of its grouping, a limit keeps the first of them, and the store in which
the rows are looked up does not show. -/
theorem summarize_lists (grouping : Grouping) (records : List Transaction) :
    grouping.Lists records (summarize grouping none records) ∧
      (∀ count, summarize grouping (some count) records = (summarize grouping none records).take count) ∧
      ∀ (index : KeyIndex) (limit : Option Nat),
        index.summarize grouping limit records = summarize grouping limit records :=
  ⟨grouping.lists_allRows records, fun _ => rfl, fun _ limit => KeyIndex.summarize_eq grouping limit records⟩

end Outlay.Spending
