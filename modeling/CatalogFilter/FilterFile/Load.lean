import CatalogFilter.Directory
import CatalogFilter.FilterFile.Shape
import CatalogFilter.Json.Document
import CatalogFilter.Text.Lenient
import CatalogFilter.Yaml.Document

/-!
# Loading a filter file

The extension of a file says whether it is JSON or YAML. A path at which no file stands also
stands for the file with one of these extensions added. What was read has to be a table, and then
it has to have the shape of a filter file. No other format is read here; a run takes its loader as a
parameter, so a loader that knows TOML as well can stand in for this one.
-/

namespace CatalogFilter

inductive LoadError where
  /-- There is no such file, it is of no known format, or it cannot be read as a table. -/
  | unreadable (path : String)
  /-- The table has another shape. -/
  | invalid (path : String)
deriving DecidableEq, Repr

namespace LoadError

def message : LoadError → String
  | .unreadable path => "Config: Failed to read " ++ Text.quote path
  | .invalid path => "Config: Invalid filter file " ++ Text.quote path

end LoadError

inductive FileFormat where
  | json
  | yaml
deriving DecidableEq, Repr

namespace FileFormat

/-- The extensions of filter files. -/
def extensions : List (String × FileFormat) :=
  [("json", .json), ("yaml", .yaml), ("yml", .yaml)]

/-- The format that a path's extension names. -/
def ofPath? (path : String) : Option FileFormat := do
  extensions.lookup (← Path.extension? (← Path.fileName? path))

/-- The setting that a text holds. -/
def parse? (format : FileFormat) (text : String) : Option Setting :=
  match format with
  | .json => (Json.parse? text).map Setting.ofJson
  | .yaml => Yaml.parse? text

end FileFormat

namespace FilterFile

/-- What stands for the extension to come after a file name that has one already. -/
def placeholder : String :=
  ".placeholder"

/-- The paths with an extension of each format after what `path` says. -/
def alternatives (path : String) : List (String × FileFormat) :=
  let hasExtension := ((Path.fileName? path).bind Path.extension?).isSome
  let path := if hasExtension then path ++ placeholder else path
  FileFormat.extensions.filterMap fun (extension, format) =>
    (Path.withExtension? path extension).map (·, format)

/-- The content of the file that a path stands for, with its format. -/
def find? (directory : Directory) (path : String) : Option (ByteArray × FileFormat) :=
  match directory.read? path with
  | some content => (FileFormat.ofPath? path).map (content, ·)
  | none =>
      (alternatives path).findSome? fun (path, format) =>
        (directory.read? path).map (·, format)

/-- The fields at the top of the file that a path stands for. -/
def readTop? (directory : Directory) (path : String) : Option (Table Setting) := do
  let (content, format) ← find? directory path
  match ← format.parse? (Text.ofBytesLenient content.toList) with
  | .table fields => some fields
  | _ => none

/-- Loads the filter file that a path stands for. -/
def load (directory : Directory) (path : String) : Except LoadError FilterFile :=
  match readTop? directory path with
  | none => .error (.unreadable path)
  | some fields =>
      match (Setting.ofTop fields).filterFile? with
      | none => .error (.invalid path)
      | some file => .ok file

end FilterFile

end CatalogFilter
