import CatalogFilter.Profile

/-!
# Why tokens form no expression
-/

namespace CatalogFilter

/-- The deepest nesting of a query, for its grouping and for its tree alike. -/
def maxDepth : Nat :=
  256

inductive ParseError where
  | unexpectedEnd
  | unexpectedToken (found : String) (offset : Nat)
  | unmatchedParen (offset : Nat)
  | unsupportedOperator (op : Operator) (profile : Profile)
  | expectedLiteral (op : Operator)
  | trailingInput (found : String) (offset : Nat)
  | tooDeep (offset : Nat)
deriving DecidableEq, Repr

namespace ParseError

def message : ParseError → String
  | .unexpectedEnd => "unexpected end of input"
  | .unexpectedToken found offset =>
      "unexpected '" ++ found ++ "' at offset " ++ toString offset
  | .unmatchedParen offset => "missing ')' for '(' at offset " ++ toString offset
  | .unsupportedOperator op profile =>
      "operator '" ++ op.symbol ++ "' is not available in the " ++ profile.label ++ " profile"
  | .expectedLiteral op => "operator '" ++ op.symbol ++ "' expects a literal operand"
  | .trailingInput found offset =>
      "unexpected '" ++ found ++ "' at offset " ++ toString offset
        ++ " after a complete expression"
  | .tooDeep offset =>
      "expression nested deeper than " ++ toString maxDepth ++ " levels at offset "
        ++ toString offset

end ParseError

end CatalogFilter
