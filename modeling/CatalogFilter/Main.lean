import CatalogFilter.CommandLine.Run

/-!
# The command

Looks up the paths that the options name, runs on what stands there, and writes what the run
leaves behind. Everything else is decided by `CommandLine.run`.
-/

namespace CatalogFilter.CommandLine

/-- The paths that a run may look at. -/
def Options.paths (options : Options) : List String :=
  let filterPaths := options.filters.toList.flatMap fun path =>
    path :: (FilterFile.alternatives path).map Prod.fst
  options.input :: filterPaths ++ options.output.toList

/-- The places on the way to a path. -/
def placesTo (path : String) : List PathSteps :=
  PathSteps.trail (.start path) (Path.names path)

/-- How steps are spelled. -/
def spell (steps : PathSteps) : String :=
  match steps with
  | "/" :: rest => "/" ++ "/".intercalate rest
  | _ => "/".intercalate steps

def UsageError.message : UsageError → String
  | .missingRequiredArgument => "a required option is missing"
  | .argumentConflict => "options cannot be used together or twice"
  | .unknownArgument => "unexpected argument"
  | .valueValidation => "the value of an option is not valid"
  | .invalidValue => "an option needs a value"
  | .tooManyValues => "an option takes no value"
  | .displayHelp =>
      "Usage: catalog-filter --input PATH (--filters PATH [--filter NAME] | --query QUERY "
        ++ "--field FIELD [--profile PROFILE]) [--output PATH] [--threads COUNT] [--verbose]"
  | .displayVersion => "catalog-filter 0.1.0"

/-- What stands at some steps. -/
def probe (steps : PathSteps) : IO (Option Entry) := do
  match ← (IO.FS.readBinFile (spell steps)).toBaseIO with
  | .ok content => pure (some (.file content))
  | .error (.inappropriateType _ 21 _) => pure (some .folder)
  | .error _ => pure none

def probeAll (steps : List PathSteps) : IO Directory := do
  let entries ← steps.filterMapM fun steps => do
    pure ((← probe steps).map (steps, ·))
  pure ⟨entries⟩

partial def readAll (stream : IO.FS.Stream) (content : ByteArray) : IO ByteArray := do
  let chunk ← stream.read 65536
  if chunk.isEmpty then pure content else readAll stream (content ++ chunk)

def surroundings (options : Options) : IO Surroundings := do
  let directory ← probeAll (options.paths.flatMap placesTo).eraseDups
  let standardInput ←
    if isStandard options.input then readAll (← IO.getStdin) .empty else pure .empty
  pure ⟨directory, standardInput⟩

/-- Carries out what a run decided and answers the exit code. -/
def finish (options : Options) (outcome : Outcome) : IO UInt32 := do
  if options.verbose then
    outcome.log.forM (IO.eprintln ·)
  match outcome.result with
  | .error error =>
      IO.eprintln ("Error: " ++ error.message)
      error.causes.forM fun cause => IO.eprintln ("  " ++ cause.message)
      pure 1
  | .ok _ =>
      match outputPath? options with
      | none => IO.print outcome.standardOutput
      | some path =>
          match outcome.directory.read? path with
          | some content => IO.FS.writeBinFile path content
          | none => pure ()
      pure 0

end CatalogFilter.CommandLine

open CatalogFilter.CommandLine in
def main (arguments : List String) : IO UInt32 := do
  match Options.ofArguments arguments with
  | .error error =>
      match error with
      | .displayHelp | .displayVersion =>
          IO.println error.message
          pure 0
      | _ =>
          IO.eprintln ("error: " ++ error.message)
          pure 2
  | .ok options => finish options (run options (← surroundings options))
