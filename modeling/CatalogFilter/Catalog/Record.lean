import CatalogFilter.Json.Document

/-!
# Records

A record is one line of a catalog that holds a JSON object.
-/

namespace CatalogFilter

/-- A line of a catalog with its number, counted from 1. -/
structure Line where
  number : Nat
  text : String
deriving DecidableEq, Repr

structure Record where
  line : Line
  fields : List (String × Json)

inductive RecordError where
  | invalidJson (line : Nat)
  | notAnObject (line : Nat) (found : Json.Kind)
deriving DecidableEq, Repr

namespace RecordError

def message : RecordError → String
  | .invalidJson line => "Catalog: Invalid JSON on line " ++ toString line
  | .notAnObject line found =>
      "Catalog: Line " ++ toString line ++ " is not a JSON object (found " ++ found.name ++ ")"

end RecordError

namespace Record

/-- Reads a line as a record. -/
def ofLine (line : Line) : Except RecordError Record :=
  match Json.parse? line.text with
  | none => .error (.invalidJson line.number)
  | some (.object fields) => .ok ⟨line, fields⟩
  | some other => .error (.notAnObject line.number other.kind)

/-- The value of a field, if the record has it. -/
def field? (record : Record) (name : String) : Option Json :=
  Table.get? record.fields name

end Record

end CatalogFilter
