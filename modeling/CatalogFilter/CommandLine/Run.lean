import CatalogFilter.Catalog.Selection
import CatalogFilter.CommandLine.Options
import CatalogFilter.Expr.Render
import CatalogFilter.FilterFile.Load

/-!
# A run of the command

A run finds its filter, reads the catalog, selects from it and only then opens its output. So a run
that fails leaves every file as it was and writes nothing, and a run that succeeds works on the
files as they were before it, even where input and output are the same file. How filter files are
loaded is a parameter of a run, so what is said of runs holds for other file formats too.
-/

namespace CatalogFilter.CommandLine

/-- What a run can see: files and its standard input. -/
structure Surroundings where
  directory : Directory
  standardInput : ByteArray

inductive RunError where
  | load (error : LoadError)
  | filterRequired (path : String) (count : Nat)
  | noFilter
  | compile (error : CompileError)
  | openInput (path : String) (failure : FileFailure)
  | line (error : Catalog.LineError)
  | select (error : SelectError)
  | createOutput (path : String) (failure : FileFailure)
deriving DecidableEq, Repr

namespace RunError

def message : RunError → String
  | .load error => error.message
  | .filterRequired path count =>
      "CLI: --filter is required when " ++ Text.quote path ++ " defines " ++ toString count
        ++ " filters"
  | .noFilter => "CLI: Provide either --filters with --filter, or --query with --field"
  | .compile error => error.message
  | .openInput path _ => "CLI: Failed to open " ++ Text.quote path
  | .line error => error.message
  | .select error => error.message
  | .createOutput path _ => "CLI: Failed to create " ++ Text.quote path

def causes : RunError → List Cause
  | .compile error => error.causes
  | .openInput _ failure | .createOutput _ failure => [.file failure]
  | .line error => [.file error.failure]
  | .select error => error.causes
  | .load _ | .filterRequired _ _ | .noFilter => []

end RunError

/-- What a run leaves behind: the number of matches or an error, what it wrote to standard output,
the files, and its log. -/
structure Outcome where
  result : Except RunError Nat
  standardOutput : String
  directory : Directory
  log : List String

/-- Whether a path stands for standard input or output: a lone dash, even with slashes after it. -/
def isStandard (path : String) : Bool :=
  !path.startsWith "." && !Path.isRooted path
    && (Path.names path).filter (· ≠ ".") = ["-"]

/-- The name of the filter to take from a file: the one asked for, or the only one. -/
def filterName (options : Options) (path : String) (file : FilterFile) :
    Except RunError String :=
  match options.filter, file.names with
  | some name, _ => .ok name
  | none, [name] => .ok name
  | none, names => .error (.filterRequired path names.length)

/-- A way to load the filter file that a path stands for. -/
abbrev Loader : Type :=
  Directory → String → Except LoadError FilterFile

/-- The filter that the options select. -/
def resolveFilter (load : Loader) (options : Options) (directory : Directory) :
    Except RunError Filter :=
  match options.filters with
  | some path =>
      match load directory path with
      | .error error => .error (.load error)
      | .ok file =>
          match filterName options path file with
          | .error error => .error error
          | .ok name => (file.compileNamed name .empty).1.mapError .compile
  | none =>
      match options.query, options.field with
      | some query, some field =>
          let spec := FilterSpec.ofClause ⟨field, options.profile, query⟩
          (spec.compile "query" .empty).1.mapError .compile
      | _, _ => .error .noFilter

/-- The lines of the catalog. A folder can be opened, but it has no first line. -/
def readCatalog (options : Options) (surroundings : Surroundings) :
    Except RunError (List Line) :=
  let lines (content : ByteArray) := (Catalog.readLines content).mapError RunError.line
  if isStandard options.input then
    lines surroundings.standardInput
  else
    match surroundings.directory.locate options.input with
    | .file content => lines content
    | .folder => .error (.line ⟨1, .isADirectory⟩)
    | .vacant => .error (.openInput options.input .notFound)
    | .unreachable failure => .error (.openInput options.input failure)

/-- The selected lines, each with a newline after it. -/
def outputText (selected : List String) : String :=
  String.join (selected.map (· ++ "\n"))

/-- The path of the file that takes the output, if it does not go to standard output. -/
def outputPath? (options : Options) : Option String :=
  options.output.filter (!isStandard ·)

/-- What the log says about a filter. -/
def filterLog (filter : Filter) : List String :=
  ("Filter '" ++ filter.name ++ "': " ++ toString filter.clauses.length ++ " clause(s), "
      ++ filter.mode.title ++ " mode")
    :: filter.clauses.map fun clause =>
      "  " ++ clause.field ++ " [" ++ clause.query.profile.label ++ "]: "
        ++ clause.query.root.render

/-- A run that ends early: nothing is written and no file changes. -/
def fail (surroundings : Surroundings) (log : List String) (error : RunError) : Outcome :=
  ⟨.error error, "", surroundings.directory, log⟩

/-- Writes the selected lines to where the options say. -/
def writeOutput (options : Options) (surroundings : Surroundings) (log : List String)
    (total : Nat) (selected : List String) : Outcome :=
  let text := outputText selected
  let log' := log ++
    ["Matched " ++ toString selected.length ++ " of " ++ toString total ++ " records"]
  match outputPath? options with
  | none => ⟨.ok selected.length, text, surroundings.directory, log'⟩
  | some path =>
      match surroundings.directory.write path text.toUTF8 with
      | .error failure => fail surroundings log (.createOutput path failure)
      | .ok directory => ⟨.ok selected.length, "", directory, log'⟩

/-- Runs the command. -/
def run (options : Options) (surroundings : Surroundings) (load : Loader := FilterFile.load) :
    Outcome :=
  match resolveFilter load options surroundings.directory with
  | .error error => fail surroundings [] error
  | .ok filter =>
      let log := filterLog filter
      match readCatalog options surroundings with
      | .error error => fail surroundings log error
      | .ok lines =>
          let total := lines.length
          let log := log ++
            ["Read " ++ toString total ++ " records from " ++ Text.quote options.input]
          match filter.select lines with
          | .error error => fail surroundings log (.select error)
          | .ok selected => writeOutput options surroundings log total selected

end CatalogFilter.CommandLine
