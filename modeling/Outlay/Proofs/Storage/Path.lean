import Outlay.Proofs.Storage.Disk

/-!
# Names inside directories

The path of a name inside a directory has the pieces of the directory's path and the name behind them,
except that a slash at the end of the directory's path adds no piece. It leads to the directory's place
with the name added, as long as the way to the directory never leads up.
-/

namespace Outlay.Storage

namespace Path

/-- The pieces as lists of characters. -/
def charPieces (s : List Char) : List (List Char) :=
  s.foldr (fun c ps => if c = '/' then [] :: ps else (c :: ps.headD []) :: ps.tail) [[]]

theorem pieces_eq (path : String) : pieces path = (charPieces path.toList).map String.ofList := rfl

theorem charPieces_ne_nil (s : List Char) : charPieces s ≠ [] := by
  cases s with
  | nil => exact List.cons_ne_nil _ _
  | cons c rest =>
    rw [charPieces, List.foldr_cons]
    split <;> exact List.cons_ne_nil _ _

theorem charPieces_slash (s t : List Char) :
    charPieces (s ++ '/' :: t) = charPieces s ++ charPieces t := by
  induction s with
  | nil => rfl
  | cons c s ih =>
    obtain ⟨first, more, written⟩ := List.exists_cons_of_ne_nil (charPieces_ne_nil s)
    unfold charPieces at ih written ⊢
    rw [List.cons_append, List.foldr_cons, List.foldr_cons, ih, written]
    split <;> rfl

theorem charPieces_of_notMem {s : List Char} (h : '/' ∉ s) : charPieces s = [s] := by
  induction s with
  | nil => rfl
  | cons c s ih =>
    rw [List.mem_cons, not_or] at h
    have rest := ih h.2
    unfold charPieces at rest ⊢
    rw [List.foldr_cons, rest, if_neg (Ne.symm h.1)]
    rfl

/-- Two ways to the same place with the same name at the end. -/
theorem exists_pieces_inside {directory name : String} (nonempty : directory ≠ "")
    (single : '/' ∉ name.toList) :
    ∃ way, pieces (inside directory name) = way ++ [name] ∧
      (pieces directory = way ∨ pieces directory = way ++ [""]) := by
  have chars : directory.toList ≠ [] := fun h => nonempty (String.toList_eq_nil_iff.1 h)
  have nameOnly : (charPieces name.toList).map String.ofList = [name] := by
    rw [charPieces_of_notMem single, List.map_singleton, String.ofList_toList]
  have split : directory.toList.dropLast ++ [directory.toList.getLast chars] = directory.toList :=
    List.dropLast_concat_getLast chars
  rw [pieces_eq, pieces_eq, inside]
  by_cases slash : directory.toList.getLast? = some '/'
  · have last : directory.toList.getLast chars = '/' := by
      rwa [List.getLast?_eq_some_getLast chars, Option.some.injEq] at slash
    rw [last] at split
    refine ⟨(charPieces directory.toList.dropLast).map String.ofList, ?_, .inr ?_⟩
    · rw [if_pos (by simp [slash]), String.toList_append, ← split, List.append_assoc,
        List.singleton_append, charPieces_slash, List.map_append, nameOnly]
      simp
    · have pieces := charPieces_slash directory.toList.dropLast []
      rw [split] at pieces
      rw [pieces, List.map_append]
      rfl
  · refine ⟨(charPieces directory.toList).map String.ofList, ?_, .inl rfl⟩
    rw [if_neg (by simp [slash, nonempty]), String.toList_append, String.toList_append,
      List.append_assoc]
    change List.map _ (charPieces (_ ++ '/' :: name.toList)) = _
    rw [charPieces_slash, List.map_append, nameOnly]

theorem isAbsolute_inside {directory : String} (nonempty : directory ≠ "") (name : String) :
    isAbsolute (inside directory name) = isAbsolute directory := by
  have chars : directory.toList ≠ [] := fun h => nonempty (String.toList_eq_nil_iff.1 h)
  obtain ⟨c, rest, written⟩ := List.exists_cons_of_ne_nil chars
  unfold isAbsolute inside
  split <;> simp [String.toList_append, written]

theorem inside_ne_empty {directory name : String} (named : name ≠ "") : inside directory name ≠ "" := by
  unfold inside
  split <;> simp [named]

end Path

namespace Disk

variable {d : Disk} {directory name : String}

/-- The place that a path leads to if all its names are followed. -/
def placeOf (d : Disk) (path : String) : Place := (Path.pieces path).foldl onward (d.start path)

/-- A name that is a step down. -/
structure IsName (name : String) : Prop where
  stays : Path.stays name = false
  down : name ≠ ".."
  single : '/' ∉ name.toList

theorem IsName.onward_eq (h : IsName name) (place : Place) : onward place name = place ++ [name] := by
  rw [onward, h.stays]
  simp [h.down]

theorem look_inside (named : IsName name) (nonempty : directory ≠ "")
    (down : ".." ∉ Path.pieces directory) :
    d.look (Path.inside directory name) = d.entry (d.placeOf directory ++ [name]) := by
  have filled : name ≠ "" := by
    rintro rfl
    exact absurd named.stays (by decide)
  obtain ⟨way, written, same⟩ := Path.exists_pieces_inside nonempty named.single
  have start : d.start (Path.inside directory name) = d.start directory := by
    rw [Disk.start, Path.isAbsolute_inside nonempty, ← Disk.start]
  have place : way.foldl onward (d.start directory) = d.placeOf directory := by
    rcases same with same | same
    · rw [placeOf, same]
    · rw [placeOf, same, List.foldl_append]
      rfl
  have downWay : ".." ∉ way := by
    rcases same with same | same
    · rwa [same] at down
    · rw [same, List.mem_append, not_or] at down
      exact down.1
  rw [look_eq_entry (Path.inside_ne_empty filled) written downWay (named.onward_eq _), start, place]

/-- What is missing in a directory is still missing once the directory is made, unless the way to it
leads up. -/
theorem look_inside_makeDirectory (named : IsName name) (nonempty : directory ≠ "")
    (down : ".." ∉ Path.pieces directory) :
    (d.makeDirectory directory).1.look (Path.inside directory name) =
      d.look (Path.inside directory name) := by
  have place : (d.makeDirectory directory).1.placeOf directory = d.placeOf directory := by
    rw [placeOf, placeOf, start, start, (extends_makeDirectory d directory).current]
  have aside : ¬d.placeOf directory ++ [name] <+: d.placeOf directory := by
    intro h
    have := h.length_le
    rw [List.length_append, List.length_singleton] at this
    omega
  rw [look_inside named nonempty down, look_inside named nonempty down, place,
    entry_makeDirectory down aside]

end Disk

end Outlay.Storage
