import CatalogFilter.Profile
import CatalogFilter.Text.Integer

/-!
# Options of the command line

Arguments are read from left to right. The value of an option may stand after an equals sign, in
the next argument, or right behind a short option; short options may stand together. An argument
that starts with a hyphen is never the value of the option before it, except a lone hyphen. The
value of an option is looked at when the next option starts or the arguments end, so an argument
that is unknown is reported before a value that is bad. An option that is given twice is refused.
-/

namespace CatalogFilter.CommandLine

inductive Opt where
  | input
  | filters
  | filter
  | query
  | field
  | profile
  | output
  | threads
  | verbose
  | help
  | version
deriving DecidableEq, Repr

namespace Opt

def all : List Opt :=
  [.input, .filters, .filter, .query, .field, .profile, .output, .threads, .verbose, .help,
    .version]

def longName : Opt → String
  | .input => "input"
  | .filters => "filters"
  | .filter => "filter"
  | .query => "query"
  | .field => "field"
  | .profile => "profile"
  | .output => "output"
  | .threads => "threads"
  | .verbose => "verbose"
  | .help => "help"
  | .version => "version"

def shortName? : Opt → Option Char
  | .input => some 'i'
  | .filters => some 'f'
  | .filter => none
  | .query => some 'q'
  | .field => none
  | .profile => some 'p'
  | .output => some 'o'
  | .threads => some 't'
  | .verbose => some 'v'
  | .help => some 'h'
  | .version => some 'V'

def takesValue : Opt → Bool
  | .verbose | .help | .version => false
  | _ => true

def ofLong? (name : String) : Option Opt :=
  all.find? (·.longName = name)

def ofShort? (name : Char) : Option Opt :=
  all.find? (·.shortName? = some name)

end Opt

/-- Why arguments are refused, or what is asked for instead of a run. -/
inductive UsageError where
  | missingRequiredArgument
  | argumentConflict
  | unknownArgument
  | valueValidation
  | invalidValue
  | tooManyValues
  | displayHelp
  | displayVersion
deriving DecidableEq, Repr

/-- The options given so far. -/
structure Given where
  input : Option String
  filters : Option String
  filter : Option String
  query : Option String
  field : Option String
  profile : Option Profile
  output : Option String
  threads : Option Nat
  verbose : Bool
deriving DecidableEq, Repr

namespace Given

def nothing : Given :=
  ⟨none, none, none, none, none, none, none, none, false⟩

/-- Gives an option for the first time. -/
def once {α : Type} (held : Option α) (value : Except UsageError α) :
    Except UsageError (Option α) :=
  match held with
  | some _ => .error .argumentConflict
  | none => value.map some

/-- The value of an option that names a path. -/
def path (value : String) : Except UsageError String :=
  if value = "" then .error .invalidValue else .ok value

def validated {α : Type} (value : Option α) : Except UsageError α :=
  match value with
  | some value => .ok value
  | none => .error .valueValidation

/-- Takes the value of an option. -/
def setValue (given : Given) (opt : Opt) (value : String) : Except UsageError Given :=
  match opt with
  | .input => (once given.input (path value)).map ({ given with input := · })
  | .filters => (once given.filters (path value)).map ({ given with filters := · })
  | .filter => (once given.filter (.ok value)).map ({ given with filter := · })
  | .query => (once given.query (.ok value)).map ({ given with query := · })
  | .field => (once given.field (.ok value)).map ({ given with field := · })
  | .profile =>
      (once given.profile (validated (Profile.ofName? value))).map ({ given with profile := · })
  | .output => (once given.output (path value)).map ({ given with output := · })
  | .threads =>
      (once given.threads (validated (Text.readUInt64? value))).map ({ given with threads := · })
  | .verbose | .help | .version => .error .tooManyValues

/-- Takes an option without a value. -/
def setFlag (given : Given) (opt : Opt) : Except UsageError Given :=
  match opt with
  | .verbose =>
      if given.verbose then .error .argumentConflict else .ok { given with verbose := true }
  | .help => .error .displayHelp
  | .version => .error .displayVersion
  | _ => .error .invalidValue

end Given

/-- An option whose value has not been looked at: it may still be missing. -/
structure Pending where
  opt : Opt
  value : Option String
deriving DecidableEq, Repr

/-- How far the arguments are read. -/
structure Reader where
  given : Given
  pending : Option Pending
deriving DecidableEq, Repr

namespace Reader

def start : Reader :=
  ⟨.nothing, none⟩

/-- Looks at the value that is pending. -/
def settle (reader : Reader) : Except UsageError Given :=
  match reader.pending with
  | none => .ok reader.given
  | some ⟨_, none⟩ => .error .invalidValue
  | some ⟨opt, some value⟩ => reader.given.setValue opt value

/-- Takes an option that needs a value, whose value has still to come. -/
def await (reader : Reader) (opt : Opt) : Except UsageError Reader :=
  reader.settle.map (⟨·, some ⟨opt, none⟩⟩)

/-- Takes an option with the value attached to it. -/
def attach (reader : Reader) (opt : Opt) (value : String) : Except UsageError Reader := do
  let given ← reader.settle
  (given.setValue opt value).map (⟨·, none⟩)

/-- Takes an option without a value. -/
def flag (reader : Reader) (opt : Opt) : Except UsageError Reader := do
  let given ← reader.settle
  (given.setFlag opt).map (⟨·, none⟩)

/-- Reads an argument after its two hyphens. -/
def long (reader : Reader) (text : List Char) : Except UsageError Reader :=
  match Opt.ofLong? (String.ofList (text.takeWhile (· ≠ '='))), text.dropWhile (· ≠ '=') with
  | none, _ => .error .unknownArgument
  | some opt, [] => if opt.takesValue then reader.await opt else reader.flag opt
  | some opt, _ :: value =>
      if opt.takesValue then reader.attach opt (String.ofList value) else .error .tooManyValues

/-- Reads short options that stand together. -/
def short (reader : Reader) : List Char → Except UsageError Reader
  | [] => .ok reader
  | name :: rest =>
      match Opt.ofShort? name with
      | none => .error .unknownArgument
      | some opt =>
          if opt.takesValue then
            match rest with
            | [] => reader.await opt
            | '=' :: value => reader.attach opt (String.ofList value)
            | value => reader.attach opt (String.ofList value)
          else
            match reader.flag opt with
            | .error error => .error error
            | .ok reader => short reader rest

/-- Reads an argument that is no option. -/
def value (reader : Reader) (argument : String) : Except UsageError Reader :=
  match reader.pending with
  | some ⟨opt, none⟩ => .ok { reader with pending := some ⟨opt, some argument⟩ }
  | _ => .error .unknownArgument

/-- Reads all arguments. After two hyphens alone no argument is an option, and nothing takes an
argument that is none. -/
def all (reader : Reader) : List String → Except UsageError Given
  | [] => reader.settle
  | argument :: rest =>
      match argument.toList with
      | ['-', '-'] => if rest = [] then reader.settle else .error .unknownArgument
      | '-' :: '-' :: text =>
          match reader.long text with
          | .error error => .error error
          | .ok reader => reader.all rest
      | '-' :: name :: text =>
          match reader.short (name :: text) with
          | .error error => .error error
          | .ok reader => reader.all rest
      | _ =>
          match reader.value argument with
          | .error error => .error error
          | .ok reader => reader.all rest

end Reader

/-- What a run is asked to do. -/
structure Options where
  input : String
  filters : Option String
  filter : Option String
  query : Option String
  field : Option String
  profile : Profile
  output : Option String
  threads : Option Nat
  verbose : Bool
deriving DecidableEq, Repr

namespace Options

/-- The options that are given, if they go together and none is missing. Conflicts come before
missing options. -/
def ofGiven (given : Given) : Except UsageError Options :=
  if given.filters.isSome ∧ given.query.isSome then
    .error .argumentConflict
  else
    match given.input with
    | none => .error .missingRequiredArgument
    | some input =>
        if given.query.isSome ∧ given.field.isNone then
          .error .missingRequiredArgument
        else
          .ok
            { input
              filters := given.filters
              filter := given.filter
              query := given.query
              field := given.field
              profile := given.profile.getD .substring
              output := given.output
              threads := given.threads
              verbose := given.verbose }

/-- Reads the arguments of a command. -/
def ofArguments (arguments : List String) : Except UsageError Options := do
  ofGiven (← Reader.start.all arguments)

end Options

end CatalogFilter.CommandLine
