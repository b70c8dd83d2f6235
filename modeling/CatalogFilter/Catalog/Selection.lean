import CatalogFilter.Catalog.Field
import CatalogFilter.Catalog.Lines
import CatalogFilter.Filter

/-!
# Selecting records

A record passes a filter when all of its clauses hold, or any one of them, as the mode says; a
filter without clauses lets every record pass. Clauses are asked in order, and none after the one
that settles the verdict. Every line has to be a record that can be asked, whether it is selected
or not.
-/

namespace CatalogFilter

namespace Clause

/-- The verdict of a clause on a record. -/
def holds (clause : Clause) (record : Record) : Except EvalError Bool :=
  clause.query.evaluate
    (Catalog.subjectOf clause.query.profile (record.field? clause.field))

end Clause

namespace Filter

/-- Whether all clauses hold, asked in order up to the first that does not. -/
def allHold (record : Record) : List Clause → Except EvalError Bool
  | [] => .ok true
  | clause :: rest =>
      match clause.holds record with
      | .error error => .error error
      | .ok false => .ok false
      | .ok true => allHold record rest

/-- Whether any clause holds, asked in order up to the first that does. -/
def anyHolds (record : Record) : List Clause → Except EvalError Bool
  | [] => .ok false
  | clause :: rest =>
      match clause.holds record with
      | .error error => .error error
      | .ok true => .ok true
      | .ok false => anyHolds record rest

/-- Whether a record passes a filter. -/
def passes (filter : Filter) (record : Record) : Except EvalError Bool :=
  match filter.mode, filter.clauses with
  | .all, clauses => allHold record clauses
  | .any, [] => .ok true
  | .any, clauses => anyHolds record clauses

end Filter

inductive SelectError where
  | record (error : RecordError)
  | evaluation (filter : String) (line : Nat) (error : EvalError)
deriving DecidableEq, Repr

namespace SelectError

def message : SelectError → String
  | .record error => error.message
  | .evaluation filter line _ =>
      "Filter: Evaluating '" ++ filter ++ "' failed on line " ++ toString line

def causes : SelectError → List Cause
  | .record _ => []
  | .evaluation _ _ error => [.text error.message]

end SelectError

namespace Filter

/-- Whether a line is a record that passes. -/
def passesLine (filter : Filter) (line : Line) : Except SelectError Bool :=
  match Record.ofLine line with
  | .error error => .error (.record error)
  | .ok record =>
      match filter.passes record with
      | .error error => .error (.evaluation filter.name line.number error)
      | .ok verdict => .ok verdict

/-- Selects from lines in order; `selected` holds the texts selected before, the last one
first. -/
def selectFrom (filter : Filter) (selected : List String) :
    List Line → Except SelectError (List String)
  | [] => .ok selected.reverse
  | line :: rest =>
      match filter.passesLine line with
      | .error error => .error error
      | .ok true => selectFrom filter (line.text :: selected) rest
      | .ok false => selectFrom filter selected rest

/-- The texts of the lines that pass, in order. -/
def select (filter : Filter) (lines : List Line) : Except SelectError (List String) :=
  filter.selectFrom [] lines

end Filter

end CatalogFilter
