import CatalogFilter.Filter
import CatalogFilter.Json.Document
import CatalogFilter.Table

/-!
# Filters written as JSON

A filter is an object with a mode and clauses, a clause an object with a field, a profile and a
query; names that mean nothing here are ignored. Either may also be an array of its members in that
order. A mode and a profile can be left out. Texts have to be strings.
-/

namespace CatalogFilter

namespace Json

/-- The members of an object or an array by these names, if the value is one. An array has no more
members than names. -/
def members? (names : List String) : Json → Option (Table Json)
  | .object fields => some fields
  | .array items =>
      if items.length ≤ names.length then some (names.zip items) else none
  | _ => none

def text? : Json → Option String
  | .string text => some text
  | _ => none

/-- A word, or an object that maps just this word to null. -/
def word? : Json → Option String
  | .string word => some word
  | .object [(word, .null)] => some word
  | _ => none

end Json

namespace ClauseSpec

/-- The members of a clause in order. -/
def memberNames : List String :=
  ["field", "profile", "query"]

def ofJson? (value : Json) : Option ClauseSpec := do
  let members ← value.members? memberNames
  let field ← (← Table.get? members "field").text?
  let profile ←
    match Table.get? members "profile" with
    | some word => word.word?.bind Profile.ofLabel?
    | none => some .substring
  let query ← (← Table.get? members "query").text?
  some ⟨field, profile, query⟩

end ClauseSpec

namespace FilterSpec

/-- The members of a filter in order. -/
def memberNames : List String :=
  ["mode", "clauses"]

def ofJson? (value : Json) : Option FilterSpec := do
  let members ← value.members? memberNames
  let mode ←
    match Table.get? members "mode" with
    | some word => word.word?.bind MatchMode.ofLabel?
    | none => some .all
  let clauses ←
    match Table.get? members "clauses" with
    | some (.array items) => items.mapM ClauseSpec.ofJson?
    | some _ => none
    | none => some []
  some ⟨mode, clauses⟩

end FilterSpec

end CatalogFilter
