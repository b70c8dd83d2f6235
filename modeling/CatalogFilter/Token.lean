import CatalogFilter.Operator

/-!
# Tokens

What the parser reads: literals, operators and the end of a query, each with the byte offset at
which it starts.
-/

namespace CatalogFilter

inductive TokenKind where
  | literal
  | operator (op : Operator)
  | finish
deriving DecidableEq, Repr

structure Token where
  kind : TokenKind
  text : String
  offset : Nat
deriving DecidableEq, Repr

namespace Token

/-- How tightly a token continues the expression before it. Only operators continue one. -/
def bindingPower (token : Token) : Nat :=
  match token.kind with
  | .operator op => op.bindingPower
  | .literal | .finish => 0

end Token

end CatalogFilter
