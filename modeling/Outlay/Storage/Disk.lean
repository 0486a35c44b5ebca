import Outlay.Storage.Path
import Outlay.Text.Bytes

/-!
Files in directories, as a value. A place is the list of names that lead to it from the root; every
directory above a file or above the current directory exists.
-/

namespace Outlay.Storage

/-- What a path leads to. -/
inductive Entry where
  | absent
  | directory
  | file (content : Bytes)
  deriving DecidableEq

def Entry.text? : Entry → Option String
  | file content => content.text?
  | _ => none

abbrev Place := List String

structure Disk where
  files : List (Place × Bytes)
  directories : List Place
  current : Place
  deriving DecidableEq

namespace Disk

def isDirectory (d : Disk) (place : Place) : Bool :=
  place.isEmpty || place.isPrefixOf d.current || d.directories.any place.isPrefixOf ||
    d.files.any fun f => place.isPrefixOf f.1.dropLast

def file? (d : Disk) (place : Place) : Option Bytes :=
  (d.files.find? (·.1 == place)).map (·.2)

def entry (d : Disk) (place : Place) : Entry :=
  if d.isDirectory place then .directory else (d.file? place).elim .absent .file

def start (d : Disk) (path : String) : Place := if Path.isAbsolute path then [] else d.current

/-- Where one piece of a path leads to from a directory. -/
def onward (place : Place) (piece : String) : Place :=
  if Path.stays piece then place else if piece == ".." then place.dropLast else place ++ [piece]

/-- Where the pieces lead to; all that is passed on the way has to be a directory. -/
def walk (d : Disk) (place : Place) : List String → Option Place
  | [] => some place
  | piece :: rest =>
    if d.isDirectory place then d.walk (onward place piece) rest else none

/-- The empty path leads nowhere. -/
def place? (d : Disk) (path : String) : Option Place :=
  if path.isEmpty then none else d.walk (d.start path) (Path.pieces path)

def look (d : Disk) (path : String) : Entry := (d.place? path).elim .absent d.entry

def put (d : Disk) (place : Place) (content : Bytes) : Disk :=
  { d with files := (place, content) :: d.files.filter (·.1 != place) }

/-- Writes a file into a directory that is there. -/
def write (d : Disk) (path : String) (content : Bytes) : Disk × Bool :=
  match d.place? path with
  | none => (d, false)
  | some place => if d.isDirectory place then (d, false) else (d.put place content, true)

/-- Makes the directories that are missing on a way, as far as no file blocks it. -/
def clear (d : Disk) (place : Place) : List String → Disk × Bool
  | [] => (d, true)
  | piece :: rest =>
    let next := onward place piece
    match d.entry next with
    | .directory => d.clear next rest
    | .file _ => (d, false)
    | .absent => clear { d with directories := next :: d.directories } next rest

/-- Makes a directory and those above it. Nothing can be made by the name `.`, so a path that ends
in it has to be there once the directories above are. -/
def makeDirectory (d : Disk) (path : String) : Disk × Bool :=
  let way := Path.pieces path
  if (way.filter (!·.isEmpty)).getLast? == some "." then
    let above := (way.reverse.dropWhile Path.stays).tail.reverse
    let cleared := (d.clear (d.start path) above).1
    (cleared, cleared.look path == .directory)
  else d.clear (d.start path) way

/-- The files that are new or have other contents than before. -/
def changes (before after : Disk) : List (Place × Bytes) :=
  after.files.filter fun f => before.file? f.1 != after.file? f.1

@[simp] theorem changes_self (d : Disk) : d.changes d = [] := by simp [changes]

@[simp] theorem file?_put_self (d : Disk) (place : Place) (content : Bytes) :
    (d.put place content).file? place = some content := by
  simp [put, file?]

theorem file?_put_of_ne (d : Disk) {place other : Place} (content : Bytes) (h : other ≠ place) :
    (d.put place content).file? other = d.file? other := by
  have kept : (d.files.filter (·.1 != place)).find? (·.1 == other) =
      d.files.find? (·.1 == other) := by
    rw [List.find?_filter]
    refine congrArg (List.find? · d.files) (funext fun f => ?_)
    by_cases same : f.1 = other
    · simp [same, h]
    · simp [same]
  have new : (place == other) = false := by simpa using Ne.symm h
  simp [put, file?, new, kept]

@[simp] theorem files_clear (d : Disk) (place : Place) (way : List String) :
    (d.clear place way).1.files = d.files := by
  induction way generalizing d place with
  | nil => rfl
  | cons piece rest ih =>
    simp only [clear]
    split
    next => exact ih d _
    next => rfl
    next => rw [ih]

@[simp] theorem files_makeDirectory (d : Disk) (path : String) :
    (d.makeDirectory path).1.files = d.files := by
  simp only [makeDirectory]
  split <;> simp

/-- A disk with files at the given places. -/
def ofFiles (current : Place) (files : List (Place × Bytes)) : Disk :=
  files.foldl (fun d f => d.put f.1 f.2) { files := [], directories := [], current }

example : (ofFiles ["w"] [(["w", "a", "b"], [1])]).look "a/../a/./b" = .file [1] := by
  decide +kernel
example : (ofFiles ["w"] [(["w", "b"], [1])]).look "b/" = .absent := by decide +kernel
example : (ofFiles ["w"] []).look "../../.." = .directory := by decide +kernel

end Disk

/-- What a program may do to files. The answers tell whether it could be done. -/
class Access (m : Type → Type) where
  look (path : String) : m Entry
  makeDirectory (path : String) : m Bool
  write (path content : String) : m Bool

instance : Access (StateM Disk) where
  look path := fun d => (d.look path, d)
  makeDirectory path := fun d => (d.makeDirectory path).swap
  write path content := fun d => (d.write path (.ofText content)).swap

end Outlay.Storage
