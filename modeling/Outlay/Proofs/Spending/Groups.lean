import Mathlib.Data.List.Induction
import Outlay.Spending.Summary

/-!
# The rows of a grouping

The row of a key is the sum of the records with that key, in their order and starting from the first
of them; no key has two rows.
-/

namespace Outlay.Spending

/-- The row that a group of records with one key adds up to. -/
def Row.ofGroup? (key : String) : List Transaction → Option Row
  | [] => none
  | t :: rest => some (rest.foldl (fun row t => row.add t.amount) (.single key t.amount))

namespace Row

@[simp] theorem key_add (r : Row) (amount : Amount) : (r.add amount).key = r.key := rfl

@[simp] theorem key_single (key : String) (amount : Amount) : (single key amount).key = key := rfl

theorem ofGroup?_append (key : String) (group : List Transaction) (t : Transaction) :
    ofGroup? key (group ++ [t]) =
      some (((ofGroup? key group).map (·.add t.amount)).getD (single key t.amount)) := by
  cases group with
  | nil => rfl
  | cons first rest => simp [ofGroup?, List.foldl_append]

theorem find?_put (key c : String) (amount : Amount) (rows : List Row) :
    (put key amount rows).find? (·.key == c) =
      if key = c then
        some (((rows.find? (·.key == c)).map (·.add amount)).getD (single key amount))
      else rows.find? (·.key == c) := by
  induction rows with
  | nil => by_cases h : key = c <;> simp [put, h]
  | cons r rest ih =>
    by_cases here : r.key = key
    · by_cases h : key = c <;> simp [put, here, h]
    · by_cases h : key = c
      · subst h
        simpa [put, here] using ih
      · by_cases wanted : r.key = c <;> simp_all [put]

/-- Only a key that has no row yet gets a new one. -/
theorem keys_put (key : String) (amount : Amount) (rows : List Row) :
    (put key amount rows).map (·.key) =
      if key ∈ rows.map (·.key) then rows.map (·.key) else rows.map (·.key) ++ [key] := by
  induction rows with
  | nil => rfl
  | cons r rest ih =>
    by_cases here : r.key = key
    · simp [put, here]
    · rw [put, if_neg here, List.map_cons, ih, List.map_cons]
      by_cases later : key ∈ rest.map (·.key)
      · rw [if_pos later, if_pos (List.mem_cons_of_mem _ later)]
      · rw [if_neg later, if_neg (List.not_mem_cons_of_ne_of_not_mem (Ne.symm here) later),
          List.cons_append]

theorem mem_keys_put {key c : String} {amount : Amount} {rows : List Row} :
    c ∈ (put key amount rows).map (·.key) ↔ c = key ∨ c ∈ rows.map (·.key) := by
  rw [keys_put]
  split
  next known =>
    refine ⟨.inr, fun member => member.elim ?_ id⟩
    rintro rfl
    exact known
  next => rw [List.mem_append, List.mem_singleton, or_comm]

theorem nodup_keys_put {rows : List Row} (h : (rows.map (·.key)).Nodup) (key : String)
    (amount : Amount) : ((put key amount rows).map (·.key)).Nodup := by
  rw [keys_put]
  split
  next => exact h
  next fresh => exact (List.perm_append_singleton _ _).nodup_iff.2 (List.nodup_cons.2 ⟨fresh, h⟩)

theorem value_total_foldl_add (records : List Transaction) (row : Row) :
    (records.foldl (fun row t => row.add t.amount) row).total.value =
      (records.map (·.amount.value)).foldl (· + ·) row.total.value := by
  induction records generalizing row with
  | nil => rfl
  | cons t records ih => exact ih (row.add t.amount)

end Row

theorem groupBy_append (key : Transaction → String) (records : List Transaction) (t : Transaction) :
    groupBy key (records ++ [t]) = Row.put (key t) t.amount (groupBy key records) := by
  simp [groupBy, List.foldl_append]

theorem nodup_keys_groupBy (key : Transaction → String) (records : List Transaction) :
    ((groupBy key records).map (·.key)).Nodup := by
  induction records using List.reverseRecOn with
  | nil => exact List.nodup_nil
  | append_singleton records t ih =>
    rw [groupBy_append]
    exact Row.nodup_keys_put ih _ _

theorem find?_groupBy (key : Transaction → String) (c : String) (records : List Transaction) :
    (groupBy key records).find? (·.key == c) = Row.ofGroup? c (records.filter (key · == c)) := by
  induction records using List.reverseRecOn with
  | nil => rfl
  | append_singleton records t ih =>
    rw [groupBy_append, Row.find?_put, ih, List.filter_append]
    by_cases h : key t = c
    · simp [h, Row.ofGroup?_append]
    · simp [h]

end Outlay.Spending
