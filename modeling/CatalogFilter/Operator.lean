/-!
# Operators

The thirteen operators that a query is written with, parentheses among them, their spellings and
how tightly each one binds.
-/

namespace CatalogFilter

inductive Operator where
  | and
  | or
  | not
  | has
  | lacks
  | eq
  | ne
  | gt
  | lt
  | ge
  | le
  | openParen
  | closeParen
deriving DecidableEq, Repr

namespace Operator

/-- How an operator is written in a query and in messages. -/
def symbol : Operator → String
  | .and => "and"
  | .or => "or"
  | .not => "not"
  | .has => "has"
  | .lacks => "lacks"
  | .eq => "=="
  | .ne => "!="
  | .gt => ">"
  | .lt => "<"
  | .ge => ">="
  | .le => "<="
  | .openParen => "("
  | .closeParen => ")"

/-- The operators in the order in which they are listed. -/
def all : List Operator :=
  [.and, .or, .not, .has, .lacks, .eq, .ne, .gt, .lt, .ge, .le, .openParen, .closeParen]

theorem mem_all (op : Operator) : op ∈ all := by
  cases op <;> decide

/-- The operator with this spelling. -/
def ofSymbol? (symbol : String) : Option Operator :=
  all.find? (·.symbol = symbol)

/-- The operator that a whole word spells. -/
def ofWord? (word : String) : Option Operator :=
  [Operator.and, .or, .not, .has, .lacks].find? (·.symbol = word)

/-- The six comparisons of whole numbers. -/
def isComparison : Operator → Bool
  | .eq | .ne | .gt | .lt | .ge | .le => true
  | _ => false

/-- How tightly an operator binds: `not` above `has`, `lacks` and the comparisons, these above
`and` and `or`. A parenthesis binds nothing. -/
def bindingPower : Operator → Nat
  | .openParen | .closeParen => 0
  | .and | .or => 10
  | .eq | .ne | .gt | .lt | .ge | .le => 50
  | .has | .lacks => 50
  | .not => 60

/-- The verdict of a comparison of two whole numbers; no other operator compares. -/
def compare? (op : Operator) (left right : Int) : Option Bool :=
  match op with
  | .eq => some (left = right)
  | .ne => some (left ≠ right)
  | .gt => some (left > right)
  | .lt => some (left < right)
  | .ge => some (left ≥ right)
  | .le => some (left ≤ right)
  | _ => none

theorem isSome_compare?
    (op : Operator) (left right : Int) :
    (op.compare? left right).isSome = op.isComparison := by
  cases op <;> rfl

end Operator

end CatalogFilter
