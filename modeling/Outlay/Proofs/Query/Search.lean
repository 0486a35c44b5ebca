import Mathlib.Data.List.Basic
import Outlay.Proofs.Query.Pieces
import Outlay.Query

/-!
# What a search keeps

A blank query is answered without a scan; this makes no difference to the records that are kept.
-/

namespace Outlay.Query

open Text

theorem scanText_of_isBlankText {text : String} (h : isBlankText text = true) : scanText text = [] :=
  scan_of_blank (List.all_eq_true.1 h)

theorem parse_eq_ofTokens (text : String) : parse text = ofTokens (scanText text) := by
  unfold parse
  split
  next blank => rw [scanText_of_isBlankText blank]
  next => rfl

@[simp] theorem accepts_ofTokens (tokens : List Token) (t : Transaction) :
    (ofTokens tokens).accepts t = tokens.all (·.accepts t) := by
  simp only [accepts, ofTokens, List.all_map]
  rfl

/-- The records that satisfy all tokens, in their order. -/
theorem search_fst (text : String) (records : List Transaction) :
    (search text records).1 = records.filter fun t => (scanText text).all (·.accepts t) := by
  unfold search
  split
  next blank =>
    rw [scanText_of_isBlankText blank]
    exact (List.filter_eq_self.2 fun _ _ => rfl).symm
  next =>
    rw [parse_eq_ofTokens]
    exact List.filter_congr fun t _ => accepts_ofTokens _ t

theorem search_fst_eq_filter_parse (text : String) (records : List Transaction) :
    (search text records).1 = (parse text).filter records := by
  rw [search_fst, parse_eq_ofTokens]
  exact List.filter_congr fun t _ => (accepts_ofTokens _ t).symm

/-- The positions of the records that a search keeps, in ascending order. -/
def hits (text : String) (records : List Transaction) : List Nat :=
  records.findIdxs (parse text).accepts

theorem filter_eq_filterMap_findIdxs {α : Type} (p : α → Bool) (l : List α) :
    l.filter p = (l.findIdxs p).filterMap (l[·]?) := by
  induction l with
  | nil => rfl
  | cons a l ih =>
    have behind : (l.findIdxs p 1).filterMap ((a :: l)[·]?) = l.filter p := by
      rw [List.findIdxs_start, List.filterMap_map, ih]
      rfl
    cases kept : p a with
    | true => simp [List.findIdxs_cons, kept, behind]
    | false => simp [List.findIdxs_cons, kept, behind]

/-- A search gives the records at its hits. -/
theorem search_eq_filterMap_hits (text : String) (records : List Transaction) :
    (search text records).1 = (hits text records).filterMap (records[·]?) := by
  rw [search_fst_eq_filter_parse, hits, ← filter_eq_filterMap_findIdxs]
  rfl

end Outlay.Query
