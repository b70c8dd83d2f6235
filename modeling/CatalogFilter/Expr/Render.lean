import CatalogFilter.Expr

/-!
# The written form of an expression

Every operator node stands in parentheses of its own, so the written form needs no precedence. A
literal is quoted when a bare word would read as something else.
-/

namespace CatalogFilter

/-- The words that read as operators when they stand bare. -/
def reservedWords : List String :=
  ["and", "or", "not", "has", "lacks"]

/-- Whether a literal has to stand between quotes to read back as one literal. -/
def needsQuotes (text : String) : Bool :=
  text.toList.any (fun c => c = ' ' || c = '/') || text ∈ reservedWords

namespace Expr

def render : Expr → String
  | .literal text => if needsQuotes text then "\"" ++ text ++ "\"" else text
  | .unary op operand => "(" ++ op.symbol ++ " " ++ operand.render ++ ")"
  | .binary op left right =>
      "(" ++ left.render ++ " " ++ op.symbol ++ " " ++ right.render ++ ")"

end Expr

end CatalogFilter
