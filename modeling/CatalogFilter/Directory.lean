import CatalogFilter.Cause
import CatalogFilter.Path

/-!
# Files in a directory

A directory holds files and folders. A path is walked name by name, and each place on the way but
the last has to be a folder. What lies above the directory is a folder of which nothing else is
known. The main statements say what is found after a file was written.
-/

namespace CatalogFilter

/-- A place by the names that lead to it from the directory. Names that go up come first; a place
that is reached from the root starts with a slash. -/
abbrev PathSteps :=
  List String

namespace PathSteps

/-- The place that a path starts from. -/
def start (path : String) : PathSteps :=
  if Path.isRooted path then ["/"] else []

/-- The place above. The root has none above it. -/
def up (steps : PathSteps) : PathSteps :=
  if steps = ["/"] then
    steps
  else if steps.all (· = "..") then
    ".." :: steps
  else
    steps.dropLast

/-- The place to which one name leads. -/
def next (steps : PathSteps) (name : String) : PathSteps :=
  if name = "." then steps else if name = ".." then steps.up else steps ++ [name]

/-- The places on a way, its end included. -/
def trail (steps : PathSteps) : List String → List PathSteps
  | [] => [steps]
  | name :: rest => steps :: trail (steps.next name) rest

/-- The place to which a path leads. -/
def ofString (path : String) : PathSteps :=
  (Path.names path).foldl next (start path)

/-- Whether a place is the directory itself or lies above it. -/
def isAbove (steps : PathSteps) : Bool :=
  steps = ["/"] || steps.all (· = "..")

end PathSteps

inductive Entry where
  | file (content : ByteArray)
  | folder

structure Directory where
  entries : List (PathSteps × Entry)

/-- What stands at a path. -/
inductive Place where
  | file (content : ByteArray)
  | folder
  /-- Nothing, but the folder that would hold it is there. -/
  | vacant
  | unreachable (failure : FileFailure)

namespace Directory

/-- What stands at a place. -/
def find? (directory : Directory) (steps : PathSteps) : Option Entry :=
  if steps.isAbove then
    some .folder
  else
    (directory.entries.find? (·.1 = steps)).map Prod.snd

/-- Goes on from a place, which has to be a folder when more names follow. -/
def walk (directory : Directory) (steps : PathSteps) : List String → Except FileFailure PathSteps
  | [] => .ok steps
  | name :: rest =>
      match directory.find? steps with
      | none => .error .notFound
      | some (.file _) => .error .notADirectory
      | some .folder =>
          if Path.longestName < name.utf8ByteSize then
            .error .nameTooLong
          else
            walk directory (steps.next name) rest

/-- What no path can be: empty, with a null character, or too long. -/
def pathFailure? (path : String) : Option FileFailure :=
  if path.contains '\x00' then
    some .malformedPath
  else if path = "" then
    some .notFound
  else if Path.longestPath < path.utf8ByteSize then
    some .nameTooLong
  else
    none

/-- Walks along the names of a path. -/
def reach (directory : Directory) (path : String) (names : List String) :
    Except FileFailure PathSteps :=
  match pathFailure? path with
  | some failure => .error failure
  | none => directory.walk (.start path) names

/-- What stands at a path. A slash at its end asks for a folder. -/
def locate (directory : Directory) (path : String) : Place :=
  let names := if Path.endsInSlash path then Path.names path ++ ["."] else Path.names path
  match directory.reach path names with
  | .error failure => .unreachable failure
  | .ok steps =>
      match directory.find? steps with
      | some (.file content) => .file content
      | some .folder => .folder
      | none => .vacant

/-- The content of the file at a path. -/
def read? (directory : Directory) (path : String) : Option ByteArray :=
  match directory.locate path with
  | .file content => some content
  | _ => none

/-- Puts a file at a place. -/
def put (directory : Directory) (steps : PathSteps) (content : ByteArray) : Directory :=
  ⟨(steps, .file content) :: directory.entries.filter (·.1 ≠ steps)⟩

/-- The names of a path that a file is written to. After a slash at the end no file can stand, so
that only the folder that would hold it counts. -/
def writtenNames (path : String) : List String × Bool :=
  let names := Path.names path
  match names.getLast? with
  | none => (names, true)
  | some last =>
      if last ≠ "." ∧ last ≠ ".." ∧ Path.endsInSlash path then
        (names.dropLast ++ ["."], true)
      else
        (names, false)

/-- Writes a file, over the one that stands there or as a new one. -/
def write (directory : Directory) (path : String) (content : ByteArray) :
    Except FileFailure Directory :=
  let (names, asFolder) := writtenNames path
  match directory.reach path names with
  | .error failure => .error failure
  | .ok steps =>
      if asFolder then
        .error .isADirectory
      else
        match directory.find? steps with
        | some .folder => .error .isADirectory
        | some (.file _) | none => .ok (directory.put steps content)

/-- A directory that holds these files and the folders on the way to them. -/
def ofFiles (files : List (String × ByteArray)) : Directory :=
  let paths := files.map fun (path, content) => (PathSteps.ofString path, content)
  let folders := paths.flatMap fun (steps, _) =>
    (List.range steps.length).map fun count => (steps.take count, Entry.folder)
  ⟨paths.map (fun (steps, content) => (steps, Entry.file content)) ++ folders⟩

end Directory

end CatalogFilter
