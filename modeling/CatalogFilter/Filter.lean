import CatalogFilter.Cause
import CatalogFilter.Query.Cache
import CatalogFilter.Text.Quoted

/-!
# Filters

A filter is a list of clauses with a mode. A clause asks a query of one field. Filters are written
down as specifications and compiled against a cache, clause by clause: the first clause that does
not compile ends the compilation, and the cache keeps what was compiled before.
-/

namespace CatalogFilter

/-- How the verdicts of the clauses make one. -/
inductive MatchMode where
  | all
  | any
deriving DecidableEq, Repr

namespace MatchMode

/-- The word for a mode in a filter file. -/
def label : MatchMode → String
  | .all => "all"
  | .any => "any"

/-- The word for a mode in the log. -/
def title : MatchMode → String
  | .all => "All"
  | .any => "Any"

/-- The mode with exactly this word. -/
def ofLabel? (label : String) : Option MatchMode :=
  [MatchMode.all, .any].find? (·.label = label)

end MatchMode

/-- A clause as it is written down. -/
structure ClauseSpec where
  field : String
  profile : Profile
  query : String
deriving DecidableEq, Repr

/-- A filter as it is written down, without its name. -/
structure FilterSpec where
  mode : MatchMode
  clauses : List ClauseSpec
deriving DecidableEq, Repr

/-- A compiled clause. -/
structure Clause where
  field : String
  stored : Cache.Stored
deriving DecidableEq, Repr

namespace Clause

def query (clause : Clause) : Query :=
  clause.stored.query

end Clause

/-- A compiled filter. -/
structure Filter where
  name : String
  mode : MatchMode
  clauses : List Clause
deriving DecidableEq, Repr

inductive CompileError where
  /-- Clause number `index`, counted from 1, of the filter called `filter`. -/
  | clause (index : Nat) (filter query : String) (error : EngineError)
  /-- No filter is called `name`; these are there. -/
  | unknownFilter (name : String) (available : List String)
deriving DecidableEq, Repr

namespace CompileError

def message : CompileError → String
  | .clause index filter query _ =>
      "Config: Error compiling clause " ++ toString index ++ " of filter '" ++ filter ++ "' ("
        ++ Text.quote query ++ ")"
  | .unknownFilter name available =>
      "Config: Unknown filter '" ++ name ++ "' (available: " ++ ", ".intercalate available ++ ")"

def causes : CompileError → List Cause
  | .clause _ _ _ error => [.text error.message, .text error.innerMessage]
  | .unknownFilter _ _ => []

end CompileError

namespace FilterSpec

/-- Compiles clauses in order; `index` is the number of the first one. -/
def compileClauses (name : String) :
    Nat → List ClauseSpec → Cache → Except CompileError (List Clause) × Cache
  | _, [], cache => (.ok [], cache)
  | index, clause :: rest, cache =>
      match cache.getOrCompile ⟨clause.profile, clause.query⟩ with
      | (.error error, cache) => (.error (.clause index name clause.query error), cache)
      | (.ok stored, cache) =>
          match compileClauses name (index + 1) rest cache with
          | (.error error, cache) => (.error error, cache)
          | (.ok clauses, cache) => (.ok (⟨clause.field, stored⟩ :: clauses), cache)

/-- The filter called `name`, and the cache with its queries. -/
def compile (spec : FilterSpec) (name : String) (cache : Cache) :
    Except CompileError Filter × Cache :=
  match compileClauses name 1 spec.clauses cache with
  | (.error error, cache) => (.error error, cache)
  | (.ok clauses, cache) => (.ok ⟨name, spec.mode, clauses⟩, cache)

/-- One clause that stands for a whole filter. -/
def ofClause (clause : ClauseSpec) : FilterSpec :=
  ⟨.all, [clause]⟩

end FilterSpec

end CatalogFilter
