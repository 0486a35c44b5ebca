import Outlay.Storage.Disk

/-!
# What stays on a disk

Making directories leaves in place all that was there, and so does a new file. What a path leads to it
leads to afterwards. A path that leads nowhere may come to lead somewhere, though not into directories
that are new: only by a name that leads up can it pass through them and leave them again.
-/

namespace Outlay.Storage.Disk

variable {d d' d'' : Disk} {place inner q : Place} {path : String} {way : List String}

/-! What is at a place. -/

theorem isDirectory_iff : d.isDirectory place = true ↔
    place = [] ∨ place <+: d.current ∨ (∃ made ∈ d.directories, place <+: made) ∨
      ∃ f ∈ d.files, place <+: f.1.dropLast := by
  simp [isDirectory, or_assoc]

theorem isDirectory_of_isPrefix (directory : d.isDirectory inner = true) (above : place <+: inner) :
    d.isDirectory place = true := by
  rw [isDirectory_iff] at directory ⊢
  rcases directory with rfl | current | ⟨made, member, below⟩ | ⟨f, member, below⟩
  · exact .inl (List.prefix_nil.1 above)
  · exact .inr (.inl (above.trans current))
  · exact .inr (.inr (.inl ⟨made, member, above.trans below⟩))
  · exact .inr (.inr (.inr ⟨f, member, above.trans below⟩))

theorem entry_eq_directory_iff : d.entry place = .directory ↔ d.isDirectory place = true := by
  unfold entry
  cases d.isDirectory place with
  | true => simp
  | false => cases d.file? place <;> simp

theorem entry_of_isDirectory_eq_false (h : d.isDirectory place = false) :
    d.entry place = (d.file? place).elim .absent .file := if_neg (by rw [h]; decide)

theorem entry_eq_absent_iff :
    d.entry place = .absent ↔ d.isDirectory place = false ∧ d.file? place = none := by
  unfold entry
  cases d.isDirectory place with
  | true => simp
  | false => cases d.file? place <;> simp

/-- Only in a directory is there anything. -/
theorem isDirectory_dropLast_of_entry_ne_absent (found : d.entry place ≠ .absent) :
    d.isDirectory place.dropLast = true := by
  cases directory : d.isDirectory place with
  | true => exact isDirectory_of_isPrefix directory (List.dropLast_prefix place)
  | false =>
    rw [ne_eq, entry_eq_absent_iff, not_and] at found
    obtain ⟨content, file⟩ := Option.ne_none_iff_exists'.1 (found directory)
    obtain ⟨f, first, -⟩ := Option.map_eq_some_iff.1 file
    have named : f.1 = place := by simpa using List.find?_some first
    exact isDirectory_iff.2 (.inr (.inr (.inr ⟨f, List.mem_of_find?_eq_some first,
      named ▸ List.prefix_refl _⟩)))

theorem isPrefix_dropLast_of_ne (above : place <+: inner) (proper : place ≠ inner) :
    place <+: inner.dropLast := by
  obtain ⟨more, rfl⟩ := above
  have nonempty : more ≠ [] := fun empty => proper (by rw [empty, List.append_nil])
  rw [List.dropLast_append_of_ne_nil nonempty]
  exact List.prefix_append _ _

/-! One disk after another. -/

/-- All that was there is still there, and paths start from where they did. -/
structure Extends (before after : Disk) : Prop where
  current : after.current = before.current
  entry : ∀ place, before.entry place ≠ .absent → after.entry place = before.entry place

theorem Extends.refl (d : Disk) : d.Extends d := ⟨rfl, fun _ _ => rfl⟩

theorem Extends.trans (first : d.Extends d') (second : d'.Extends d'') : d.Extends d'' where
  current := second.current.trans first.current
  entry place found := by
    have kept := first.entry place found
    rw [← kept] at found ⊢
    exact second.entry place found

theorem Extends.isDirectory (h : d.Extends d') (directory : d.isDirectory place = true) :
    d'.isDirectory place = true := by
  rw [← entry_eq_directory_iff] at directory ⊢
  rw [h.entry place (by rw [directory]; decide), directory]

theorem Extends.walk_eq_some (h : d.Extends d') (led : d.walk place way = some q) :
    d'.walk place way = some q := by
  induction way generalizing place with
  | nil => exact led
  | cons piece rest ih =>
    rw [walk] at led ⊢
    split at led
    next directory => rw [if_pos (h.isDirectory directory), ih led]
    next => cases led

theorem Extends.place?_eq_some (h : d.Extends d') (led : d.place? path = some q) :
    d'.place? path = some q := by
  have sameStart : d'.start path = d.start path := by rw [start, start, h.current]
  unfold place? at led ⊢
  split at led
  next => cases led
  next nonempty => rw [if_neg nonempty, sameStart, h.walk_eq_some led]

/-- What a path leads to it leads to afterwards. -/
theorem Extends.look_eq (h : d.Extends d') (found : d.look path ≠ .absent) :
    d'.look path = d.look path := by
  unfold look at found ⊢
  cases led : d.place? path with
  | none =>
    rw [led] at found
    exact absurd rfl found
  | some place =>
    rw [led] at found
    rw [h.place?_eq_some led]
    exact h.entry place found

/-! Walks. -/

theorem isDirectory_start (d : Disk) (path : String) : d.isDirectory (d.start path) = true := by
  rw [isDirectory_iff, start]
  split
  · exact .inl rfl
  · exact .inr (.inl (List.prefix_refl _))

/-- A step leads to a name in a directory. -/
theorem isDirectory_dropLast_onward (directory : d.isDirectory place = true) (piece : String) :
    d.isDirectory (onward place piece).dropLast = true := by
  unfold onward
  split
  · exact isDirectory_of_isPrefix directory (List.dropLast_prefix _)
  · split
    · exact isDirectory_of_isPrefix directory
        ((List.dropLast_prefix _).trans (List.dropLast_prefix _))
    · rwa [List.dropLast_concat]

/-- Without the name that leads up a step leads no further up. -/
theorem isPrefix_onward {piece : String} (down : piece ≠ "..") (place : Place) :
    place <+: onward place piece := by
  unfold onward
  split
  · exact List.prefix_refl _
  · rw [if_neg (by simpa using down)]
    exact List.prefix_append _ _

theorem isPrefix_foldl_onward (down : ".." ∉ way) (place : Place) :
    place <+: way.foldl onward place := by
  induction way generalizing place with
  | nil => exact List.prefix_refl _
  | cons piece rest ih =>
    rw [List.mem_cons, not_or] at down
    exact (isPrefix_onward (Ne.symm down.1) place).trans (ih down.2 _)

theorem walk_append (d : Disk) (place : Place) (way more : List String) :
    d.walk place (way ++ more) = (d.walk place way).bind fun q => d.walk q more := by
  induction way generalizing place with
  | nil => rfl
  | cons piece rest ih =>
    rw [List.cons_append, walk, walk, ih]
    split <;> rfl

theorem eq_foldl_onward_of_walk (led : d.walk place way = some q) : q = way.foldl onward place := by
  induction way generalizing place with
  | nil => exact (Option.some.inj led).symm
  | cons piece rest ih =>
    rw [walk] at led
    split at led
    next => exact ih led
    next => cases led

theorem walk_eq_foldl_onward (down : ".." ∉ way)
    (directory : d.isDirectory (way.foldl onward place) = true) :
    d.walk place way = some (way.foldl onward place) := by
  induction way generalizing place with
  | nil => rfl
  | cons piece rest ih =>
    have here := isDirectory_of_isPrefix directory (isPrefix_foldl_onward down place)
    rw [walk, if_pos here]
    exact ih (fun member => down (List.mem_cons_of_mem _ member)) directory

/-- What a path leads to that never leads up and ends in a name. -/
theorem look_eq_entry {name : String} (nonempty : path ≠ "") (written : Path.pieces path = way ++ [name])
    (down : ".." ∉ way) (proper : onward (way.foldl onward (d.start path)) name =
      way.foldl onward (d.start path) ++ [name]) :
    d.look path = d.entry (way.foldl onward (d.start path) ++ [name]) := by
  have led : d.place? path =
      (d.walk (d.start path) way).bind fun q => if d.isDirectory q then some (onward q name) else none := by
    rw [place?, if_neg (by simpa using nonempty), written, walk_append]
    rfl
  cases directory : d.isDirectory (way.foldl onward (d.start path)) with
  | true =>
    rw [walk_eq_foldl_onward down directory] at led
    rw [look, led]
    simp only [Option.bind_some, if_pos directory, proper, Option.elim_some]
  | false =>
    have nothing : d.entry (way.foldl onward (d.start path) ++ [name]) = .absent := by
      refine Decidable.byContradiction fun found => ?_
      have above := isDirectory_dropLast_of_entry_ne_absent found
      rw [List.dropLast_concat, directory] at above
      cases above
    have nowhere : d.place? path = none := by
      rw [led]
      cases passed : d.walk (d.start path) way with
      | none => rfl
      | some q =>
        rw [eq_foldl_onward_of_walk passed, Option.bind_some, directory]
        rfl
    rw [look, nowhere, nothing]
    rfl

/-! Directories that are made. -/

/-- The disk with one more directory. -/
def withDirectory (d : Disk) (place : Place) : Disk := { d with directories := place :: d.directories }

theorem isDirectory_withDirectory (above : d.isDirectory place.dropLast = true) :
    (d.withDirectory place).isDirectory q = true ↔ q = place ∨ d.isDirectory q = true := by
  have split : (d.withDirectory place).isDirectory q = true ↔ q <+: place ∨ d.isDirectory q = true := by
    rw [isDirectory_iff, isDirectory_iff]
    constructor
    · rintro (root | current | ⟨made, member, below⟩ | file)
      · exact .inr (.inl root)
      · exact .inr (.inr (.inl current))
      · rcases List.mem_cons.1 member with rfl | member
        · exact .inl below
        · exact .inr (.inr (.inr (.inl ⟨made, member, below⟩)))
      · exact .inr (.inr (.inr (.inr file)))
    · rintro (below | root | current | ⟨made, member, below⟩ | file)
      · exact .inr (.inr (.inl ⟨place, List.mem_cons_self, below⟩))
      · exact .inl root
      · exact .inr (.inl current)
      · exact .inr (.inr (.inl ⟨made, List.mem_cons_of_mem _ member, below⟩))
      · exact .inr (.inr (.inr file))
  rw [split]
  constructor
  · rintro (below | directory)
    · by_cases same : q = place
      · exact .inl same
      · exact .inr (isDirectory_of_isPrefix above (isPrefix_dropLast_of_ne below same))
    · exact .inr directory
  · rintro (rfl | directory)
    · exact .inl (List.prefix_refl _)
    · exact .inr directory

theorem entry_withDirectory (above : d.isDirectory place.dropLast = true) (other : q ≠ place) :
    (d.withDirectory place).entry q = d.entry q := by
  have same : (d.withDirectory place).isDirectory q = d.isDirectory q := by
    rw [Bool.eq_iff_iff, isDirectory_withDirectory above]
    exact or_iff_right other
  rw [entry, entry, same]
  rfl

theorem extends_withDirectory (above : d.isDirectory place.dropLast = true)
    (absent : d.entry place = .absent) : d.Extends (d.withDirectory place) where
  current := rfl
  entry _ found := entry_withDirectory above fun same => found (same ▸ absent)

theorem clear_cons (d : Disk) (place : Place) (piece : String) (rest : List String) :
    d.clear place (piece :: rest) =
      match d.entry (onward place piece) with
      | .directory => d.clear (onward place piece) rest
      | .file _ => (d, false)
      | .absent => (d.withDirectory (onward place piece)).clear (onward place piece) rest := rfl

theorem isDirectory_withDirectory_self (d : Disk) (place : Place) :
    (d.withDirectory place).isDirectory place = true :=
  isDirectory_iff.2 (.inr (.inr (.inl ⟨place, List.mem_cons_self, List.prefix_refl _⟩)))

theorem extends_clear (directory : d.isDirectory place = true) (way : List String) :
    d.Extends (d.clear place way).1 := by
  induction way generalizing d place with
  | nil => exact .refl d
  | cons piece rest ih =>
    rw [clear_cons]
    split
    next next => exact ih (entry_eq_directory_iff.1 next)
    next => exact .refl d
    next absent =>
      exact (extends_withDirectory (isDirectory_dropLast_onward directory piece) absent).trans
        (ih (isDirectory_withDirectory_self d _))

/-- New directories lie on the way and nowhere else, if it never leads up. -/
theorem entry_clear (down : ".." ∉ way) (directory : d.isDirectory place = true)
    (aside : ¬q <+: way.foldl onward place) : (d.clear place way).1.entry q = d.entry q := by
  induction way generalizing d place with
  | nil => rfl
  | cons piece rest ih =>
    have downRest : ".." ∉ rest := fun member => down (List.mem_cons_of_mem _ member)
    rw [clear_cons]
    split
    next next => exact ih downRest (entry_eq_directory_iff.1 next) aside
    next => rfl
    next =>
      have other : q ≠ onward place piece :=
        fun same => aside (same ▸ isPrefix_foldl_onward downRest _)
      rw [ih downRest (isDirectory_withDirectory_self d _) aside,
        entry_withDirectory (isDirectory_dropLast_onward directory piece) other]

/-- Where a way leads through directories nothing is made. -/
theorem clear_of_walk (led : d.walk place way = some q) (directory : d.isDirectory q = true) :
    d.clear place way = (d, true) := by
  induction way generalizing place with
  | nil => rfl
  | cons piece rest ih =>
    rw [walk] at led
    split at led
    next =>
      have next : d.isDirectory (onward place piece) = true := by
        cases rest with
        | nil => rwa [← Option.some.inj led] at directory
        | cons _ _ =>
          rw [walk] at led
          split at led
          next next => exact next
          next => cases led
      rw [clear_cons, entry_eq_directory_iff.2 next]
      exact ih led
    next => cases led

theorem walk_clear (directory : d.isDirectory place = true) (made : (d.clear place way).2 = true) :
    ∃ q, (d.clear place way).1.walk place way = some q ∧ (d.clear place way).1.isDirectory q = true := by
  induction way generalizing d place with
  | nil => exact ⟨place, rfl, directory⟩
  | cons piece rest ih =>
    have here := (extends_clear directory (piece :: rest)).isDirectory directory
    rw [walk, if_pos here]
    rw [clear_cons] at made ⊢
    split at made
    next next => exact ih (entry_eq_directory_iff.1 next) made
    next => cases made
    next => exact ih (isDirectory_withDirectory_self d _) made

/-! The parts of a path whose directory is made first if it ends in `.`. -/

/-- The way to a path's directory. -/
def wayAbove (way : List String) : List String := (way.reverse.dropWhile Path.stays).tail.reverse

theorem exists_append_wayAbove (way : List String) : ∃ more, wayAbove way ++ more = way := by
  have suffix : (way.reverse.dropWhile Path.stays).tail <:+ way.reverse :=
    (List.tail_suffix _).trans (List.dropWhile_suffix _)
  have front := List.reverse_prefix.2 suffix
  rw [List.reverse_reverse] at front
  exact front

theorem makeDirectory_eq (d : Disk) (path : String) :
    d.makeDirectory path =
      if ((Path.pieces path).filter (!·.isEmpty)).getLast? == some "." then
        ((d.clear (d.start path) (wayAbove (Path.pieces path))).1,
          (d.clear (d.start path) (wayAbove (Path.pieces path))).1.look path == .directory)
      else d.clear (d.start path) (Path.pieces path) := rfl

theorem extends_makeDirectory (d : Disk) (path : String) : d.Extends (d.makeDirectory path).1 := by
  rw [makeDirectory_eq]
  split <;> exact extends_clear (isDirectory_start d path) _

theorem entry_makeDirectory (down : ".." ∉ Path.pieces path)
    (aside : ¬q <+: (Path.pieces path).foldl onward (d.start path)) :
    (d.makeDirectory path).1.entry q = d.entry q := by
  rw [makeDirectory_eq]
  split
  · obtain ⟨more, written⟩ := exists_append_wayAbove (Path.pieces path)
    rw [← written, List.mem_append, not_or] at down
    rw [← written, List.foldl_append] at aside
    exact entry_clear down.1 (isDirectory_start d path)
      fun below => aside (below.trans (isPrefix_foldl_onward down.2 _))
  · exact entry_clear down (isDirectory_start d path) aside

/-- A directory that is there is not made again. -/
theorem makeDirectory_of_look (there : d.look path = .directory) :
    d.makeDirectory path = (d, true) := by
  have led : ∃ q, d.walk (d.start path) (Path.pieces path) = some q ∧ d.isDirectory q = true := by
    unfold look place? at there
    split at there
    next => cases there
    next =>
      cases led : d.walk (d.start path) (Path.pieces path) with
      | none =>
        rw [led] at there
        cases there
      | some q =>
        rw [led] at there
        exact ⟨q, rfl, entry_eq_directory_iff.1 there⟩
  obtain ⟨q, led, directory⟩ := led
  rw [makeDirectory_eq]
  split
  · obtain ⟨more, written⟩ := exists_append_wayAbove (Path.pieces path)
    have above : ∃ p, d.walk (d.start path) (wayAbove (Path.pieces path)) = some p ∧
        d.isDirectory p = true := by
      rw [← written, walk_append] at led
      obtain ⟨p, first, second⟩ := Option.bind_eq_some_iff.1 led
      refine ⟨p, first, ?_⟩
      cases more with
      | nil => rwa [Option.some.inj second]
      | cons _ _ =>
        rw [walk] at second
        split at second
        next here => exact here
        next => cases second
    obtain ⟨p, first, here⟩ := above
    rw [clear_of_walk first here, there]
    rfl
  · exact clear_of_walk led directory

/-- A directory that was made is there. -/
theorem look_makeDirectory (nonempty : path ≠ "") (made : (d.makeDirectory path).2 = true) :
    (d.makeDirectory path).1.look path = .directory := by
  rw [makeDirectory_eq] at made ⊢
  split at made
  next ends =>
    rw [if_pos ends]
    exact beq_iff_eq.1 made
  next ends =>
    rw [if_neg ends]
    obtain ⟨q, led, directory⟩ := walk_clear (isDirectory_start d path) made
    have sameStart : (d.clear (d.start path) (Path.pieces path)).1.start path = d.start path := by
      rw [start, (extends_clear (isDirectory_start d path) (Path.pieces path)).current, ← start]
    rw [look, place?, if_neg (by simpa using nonempty), sameStart, led]
    exact entry_eq_directory_iff.2 directory

/-! New files. -/

theorem isDirectory_dropLast_of_walk {piece : String} {rest : List String}
    (led : d.walk place (piece :: rest) = some q) : d.isDirectory q.dropLast = true := by
  induction rest generalizing place piece with
  | nil =>
    rw [walk] at led
    split at led
    next directory =>
      rw [← Option.some.inj led]
      exact isDirectory_dropLast_onward directory piece
    next => cases led
  | cons next rest ih =>
    rw [walk] at led
    split at led
    next => exact ih led
    next => cases led

theorem isDirectory_put (above : d.isDirectory place.dropLast = true) (content : Bytes) :
    (d.put place content).isDirectory q = d.isDirectory q := by
  rw [Bool.eq_iff_iff, isDirectory_iff, isDirectory_iff]
  have files : (∃ f ∈ (d.put place content).files, q <+: f.1.dropLast) ↔
      q <+: place.dropLast ∨ ∃ f ∈ d.files, f.1 ≠ place ∧ q <+: f.1.dropLast := by
    simp [put, and_assoc]
  rw [files]
  constructor
  · rintro (root | current | made | below | ⟨f, member, -, below⟩)
    · exact .inl root
    · exact .inr (.inl current)
    · exact .inr (.inr (.inl made))
    · exact isDirectory_iff.1 (isDirectory_of_isPrefix above below)
    · exact .inr (.inr (.inr ⟨f, member, below⟩))
  · rintro (root | current | made | ⟨f, member, below⟩)
    · exact .inl root
    · exact .inr (.inl current)
    · exact .inr (.inr (.inl made))
    · by_cases same : f.1 = place
      · exact .inr (.inr (.inr (.inl (same ▸ below))))
      · exact .inr (.inr (.inr (.inr ⟨f, member, same, below⟩)))

theorem walk_put (above : d.isDirectory place.dropLast = true) (content : Bytes) (start : Place)
    (way : List String) : (d.put place content).walk start way = d.walk start way := by
  induction way generalizing start with
  | nil => rfl
  | cons piece way ih => rw [walk, walk, isDirectory_put above content, ih]

theorem extends_put (above : d.isDirectory place.dropLast = true) (absent : d.entry place = .absent)
    (content : Bytes) : d.Extends (d.put place content) where
  current := rfl
  entry q found := by
    have other : q ≠ place := fun same => found (same ▸ absent)
    rw [entry, entry, isDirectory_put above content, file?_put_of_ne d content other]

theorem pieces_ne_nil (path : String) : Path.pieces path ≠ [] := by
  unfold Path.pieces
  cases path.toList with
  | nil => exact List.cons_ne_nil _ _
  | cons c rest =>
    rw [List.foldr_cons]
    split <;> exact List.cons_ne_nil _ _

theorem isDirectory_dropLast_of_place? (led : d.place? path = some place) :
    d.isDirectory place.dropLast = true := by
  unfold place? at led
  split at led
  next => cases led
  next =>
    obtain ⟨piece, rest, written⟩ := List.exists_cons_of_ne_nil (pieces_ne_nil path)
    rw [written] at led
    exact isDirectory_dropLast_of_walk led

section

variable (led : d.place? path = some place) (noDirectory : d.isDirectory place = false) (content : Bytes)

include led noDirectory

theorem write_eq_put : d.write path content = (d.put place content, true) := by
  rw [write, led]
  exact if_neg (by rw [noDirectory]; decide)

/-- What was written is found where it was written to. -/
theorem look_put : (d.put place content).look path = .file content := by
  have above := isDirectory_dropLast_of_place? led
  have still : (d.put place content).place? path = some place := by
    rw [place?, walk_put above content]
    exact led
  have file : (d.put place content).isDirectory place = false := by
    rw [isDirectory_put above content, noDirectory]
  rw [look, still, Option.elim_some, entry_of_isDirectory_eq_false file, file?_put_self]
  rfl

end

/-- Writing to a path that leads to nothing makes a new file or does nothing at all. -/
theorem write_cases (absent : d.look path = .absent) (content : Bytes) :
    d.write path content = (d, false) ∨
      ∃ place, d.place? path = some place ∧ d.file? place = none ∧
        d.write path content = (d.put place content, true) ∧ d.Extends (d.put place content) ∧
        (d.put place content).look path = .file content := by
  cases led : d.place? path with
  | none => exact .inl (by rw [write, led])
  | some place =>
    have nothing : d.entry place = .absent := by rwa [look, led] at absent
    obtain ⟨noDirectory, noFile⟩ := entry_eq_absent_iff.1 nothing
    have above := isDirectory_dropLast_of_place? led
    exact .inr ⟨place, rfl, noFile, write_eq_put led noDirectory content,
      extends_put above nothing content, look_put led noDirectory content⟩

/-- A new file is the only change. -/
theorem changes_put (absent : d.file? place = none) (content : Bytes) :
    d.changes (d.put place content) = [(place, content)] := by
  have others : d.files.filter (·.1 != place) = d.files := by
    rw [List.filter_eq_self]
    intro f member
    rw [bne_iff_ne]
    intro same
    have none := Option.map_eq_none_iff.1 absent
    exact absurd (List.find?_eq_none.1 none f member) (by simp [same])
  have kept : d.files.filter (fun f => d.file? f.1 != (d.put place content).file? f.1) = [] := by
    rw [List.filter_eq_nil_iff]
    intro f member
    have other : f.1 ≠ place := by
      rw [← others] at member
      simpa using (List.mem_filter.1 member).2
    simp [file?_put_of_ne d content other]
  have files : (d.put place content).files = (place, content) :: d.files := by
    rw [put, others]
  rw [changes, files, List.filter_cons, if_pos (by simp [absent]), kept]

theorem changes_of_files (same : d'.files = d.files) : d.changes d' = [] := by
  simp [changes, file?, same]

end Outlay.Storage.Disk
