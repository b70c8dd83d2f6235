import CatalogFilter.Filter
import CatalogFilter.Table

/-!
# Named filters

A filter file names filters. Its filters are compiled all together in the order of their names, or
one of them by name; either way they share one cache.
-/

namespace CatalogFilter

/-- Filters under their names, each name once and in order. -/
structure FilterFile where
  filters : Table FilterSpec
  ordered : filters.Ordered
deriving DecidableEq, Repr

namespace FilterFile

/-- The file of named filters; of two with one name the later counts. -/
def ofPairs (pairs : List (String × FilterSpec)) : FilterFile :=
  ⟨Table.ofPairs pairs, Table.ordered_ofPairs pairs⟩

/-- The names of the filters in order. -/
def names (file : FilterFile) : List String :=
  file.filters.names

/-- Compiles named specifications in order, up to the first that fails. -/
def compileAll : Table FilterSpec → Cache → Except CompileError (List Filter) × Cache
  | [], cache => (.ok [], cache)
  | (name, spec) :: rest, cache =>
      match spec.compile name cache with
      | (.error error, cache) => (.error error, cache)
      | (.ok filter, cache) =>
          match compileAll rest cache with
          | (.error error, cache) => (.error error, cache)
          | (.ok filters, cache) => (.ok (filter :: filters), cache)

/-- Compiles every filter. -/
def compile (file : FilterFile) (cache : Cache) : Except CompileError (List Filter) × Cache :=
  compileAll file.filters cache

/-- Compiles the filter called `name`. -/
def compileNamed (file : FilterFile) (name : String) (cache : Cache) :
    Except CompileError Filter × Cache :=
  match file.filters.get? name with
  | some spec => spec.compile name cache
  | none => (.error (.unknownFilter name file.names), cache)

end FilterFile

end CatalogFilter
