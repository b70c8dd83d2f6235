import CatalogFilter.Subject

/-!
# Values and what can be wrong with them

A node stands for a verdict, a text or a whole number. An evaluation fails where an operator meets
a value of another kind.
-/

namespace CatalogFilter

/-- What a node stands for. -/
inductive Value where
  | verdict (holds : Bool)
  | text (content : String)
  | number (value : Int)
deriving DecidableEq, Repr

/-- What an operator may find where it wants something else. -/
inductive ValueKind where
  | boolean
  | string
  | integer
  | operator
deriving DecidableEq, Repr

namespace ValueKind

def name : ValueKind → String
  | .boolean => "boolean"
  | .string => "string"
  | .integer => "integer"
  | .operator => "operator"

end ValueKind

namespace Value

def kind : Value → ValueKind
  | .verdict _ => .boolean
  | .text _ => .string
  | .number _ => .integer

end Value

/-- Who asks for a verdict: the filter as a whole or an operator in it. -/
inductive Asker where
  | filter
  | operator (op : Operator)
deriving DecidableEq, Repr

namespace Asker

def name : Asker → String
  | .filter => "filter"
  | .operator op => op.symbol

end Asker

inductive EvalError where
  | notBoolean (asker : Asker) (found : ValueKind)
  | notNumeric (op : Operator) (found : ValueKind)
  | notAnInteger (text : String)
  | contextMismatch (profile : Profile) (found : SubjectKind)
deriving DecidableEq, Repr

namespace EvalError

def message : EvalError → String
  | .notBoolean asker found =>
      "'" ++ asker.name ++ "' expects a boolean operand, found " ++ found.name
  | .notNumeric op found =>
      "'" ++ op.symbol ++ "' expects an integer operand, found " ++ found.name
  | .notAnInteger text => "'" ++ text ++ "' is not an integer"
  | .contextMismatch profile found =>
      profile.label ++ " filter cannot be evaluated against a " ++ found.name ++ " context"

end EvalError

end CatalogFilter
