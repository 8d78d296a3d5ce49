import TraceRelay.Process
import TraceRelay.Text.Scan
import TraceRelay.Text.Segments

/-!
# The working directory

The working directory holds at most one entry, in directories of its own if its path has several
names. A path is walked name by name: every name before the last has to be that of a directory, and
the parent of a directory is where two dots lead. Nothing is known of what lies outside, save that
the directories above exist.
-/

namespace TraceRelay.Settings

open Text

/-- An entry of the working directory: a file, a directory, or something that cannot be read. -/
inductive Stored
  | file (bytes : List UInt8)
  | directory
  | unreadable (cause : OsError)
deriving DecidableEq, Repr

/-- The working directory: the path of its entry and what stands there. -/
structure WorkingDirectory where
  path : String := "follow.toml"
  stored : Option Stored := none
  /-- What is said against the text of a file that holds no settings. The wording is that of the
  reader of documents, so it is given together with the file. -/
  fault : String := ""
deriving DecidableEq, Repr

/-! ## Places -/

/-- A place in the tree of files: names, the innermost first, below the root or below the directory
that lies some levels above the working directory. -/
structure Place where
  absolute : Bool
  above : Nat := 0
  names : List (List Char) := []
deriving DecidableEq, Repr

/-- The place that contains a place; the root contains itself. -/
def Place.parent (place : Place) : Place :=
  match place.names with
  | _ :: names => { place with names }
  | [] => if place.absolute then place else { place with above := place.above + 1 }

/-- The place where a name leads. An empty name and a dot stay in place. -/
def Place.move (place : Place) (name : List Char) : Place :=
  if name = [] ∨ name = ['.'] then place
  else if name = ['.', '.'] then place.parent
  else { place with names := name :: place.names }

/-- The place where a path begins. -/
def Place.start (path : List Char) : Place where
  absolute := path.head? = some '/'

/-- The names of a path, which stand between slashes; after a last slash there is an empty name. -/
def pathNames (path : List Char) : List (List Char) :=
  (segments (· == '/') path).map (·.filter (· ≠ '/')) ++
    if path.getLast? = some '/' then [[]] else []

/-- The places that a walk leads through after its first. -/
def Place.walk : Place → List (List Char) → List Place
  | _, [] => []
  | place, name :: names => place.move name :: (place.move name).walk names

/-! ## Reading -/

/-- What stands at a place. The directories on the way to an entry exist if the entry does. -/
def WorkingDirectory.at? (dir : WorkingDirectory) (place : Place) : Option Stored :=
  let path := dir.path.toList
  let way := (Place.start path).walk (pathNames path)
  if dir.stored.isSome ∧ way.getLast? = some place then dir.stored
  else if place.names = [] ∨ (dir.stored.isSome ∧ place ∈ way) then some .directory
  else none

/-- The longest name in bytes. -/
def maxNameBytes : Nat := 255

/-- The longest path in bytes. -/
def maxPathBytes : Nat := 4095

/-- Walks from a place along names: every name is looked up in a directory. -/
def WorkingDirectory.follow (dir : WorkingDirectory) :
    Place → List (List Char) → Except OsError Stored
  | place, [] =>
    match dir.at? place with
    | some stored => .ok stored
    | none => .error .notFound
  | place, name :: names =>
    match dir.at? place with
    | none => .error .notFound
    | some .directory =>
      if maxNameBytes < byteLength name then .error .nameTooLong
      else dir.follow (place.move name) names
    | some _ => .error .notADirectory

/-- The bytes found at a path. -/
def WorkingDirectory.read (dir : WorkingDirectory) (path : String) : Except OsError (List UInt8) :=
  let cs := path.toList
  if cs.contains '\x00' then .error .nulInPath
  else if cs = [] then .error .notFound
  else if maxPathBytes < byteLength cs then .error .nameTooLong
  else
    match dir.follow (.start cs) (pathNames cs) with
    | .ok (.file bytes) => .ok bytes
    | .ok .directory => .error .isADirectory
    | .ok (.unreadable cause) => .error cause
    | .error cause => .error cause

end TraceRelay.Settings
