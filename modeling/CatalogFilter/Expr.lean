import CatalogFilter.Operator

/-!
# Expressions

The tree of a query. Parentheses group while a query is read and leave no node. A tree may hold any
operator anywhere; which trees a query can have is the parser's business.
-/

namespace CatalogFilter

inductive Expr where
  | literal (text : String)
  | unary (op : Operator) (operand : Expr)
  | binary (op : Operator) (left right : Expr)
deriving DecidableEq, Repr

namespace Expr

def isLiteral : Expr → Bool
  | .literal _ => true
  | .unary _ _ | .binary _ _ _ => false

/-- The number of nodes. -/
def size : Expr → Nat
  | .literal _ => 1
  | .unary _ operand => 1 + operand.size
  | .binary _ left right => 1 + left.size + right.size

/-- The number of nodes on the longest path from the root. -/
def depth : Expr → Nat
  | .literal _ => 1
  | .unary _ operand => 1 + operand.depth
  | .binary _ left right => 1 + max left.depth right.depth

theorem depth_pos (expr : Expr) : 0 < expr.depth := by
  cases expr <;> simp only [depth] <;> omega

/-- The literal at the root, if the tree is one. -/
theorem isLiteral_eq_true_iff
    {expr : Expr} :
    expr.isLiteral = true ↔ ∃ text, expr = .literal text := by
  cases expr <;> simp [isLiteral]

end Expr

end CatalogFilter
