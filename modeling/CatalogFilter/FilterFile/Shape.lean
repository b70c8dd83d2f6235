import CatalogFilter.FilterFile
import CatalogFilter.FilterFile.Setting

/-!
# The shape of a filter file

A filter file is a table whose `filters` map names to filters. Filters and clauses are tables, or
lists of their members in order; names that mean nothing here are ignored.
-/

namespace CatalogFilter

namespace Setting

/-- The members of a table or a list by these names, if the setting is one. -/
def members? (names : List String) : Setting → Option (Table Setting)
  | .table fields => some fields
  | .list items => some (names.zip items)
  | _ => none

/-- A word, or a table with one name, which is the word. -/
def word? : Setting → Option String
  | .text word => some word
  | .table [(word, _)] => some word
  | _ => none

def clause? (setting : Setting) : Option ClauseSpec := do
  let members ← setting.members? ["field", "profile", "query"]
  let field ← (← Table.get? members "field").asText?
  let profile ←
    match Table.get? members "profile" with
    | some word => word.word?.bind Profile.ofLabel?
    | none => some .substring
  let query ← (← Table.get? members "query").asText?
  some ⟨field, profile, query⟩

def filter? (setting : Setting) : Option FilterSpec := do
  let members ← setting.members? ["mode", "clauses"]
  let mode ←
    match Table.get? members "mode" with
    | some word => word.word?.bind MatchMode.ofLabel?
    | none => some .all
  let clauses ←
    match Table.get? members "clauses" with
    | some (.list items) => items.mapM clause?
    | some _ => none
    | none => some []
  some ⟨mode, clauses⟩

/-- The filters of a file. -/
def filterFile? (setting : Setting) : Option FilterFile := do
  let members ← setting.members? ["filters"]
  match ← Table.get? members "filters" with
  | .table fields =>
      let filters ← fields.mapM fun (name, value) => value.filter?.map (name, ·)
      some (.ofPairs filters)
  | _ => none

end Setting

end CatalogFilter
