import CatalogFilter.Proofs.Outcomes
import CatalogFilter.Text.Occurrence

/-!
# Laws of evaluation

The laws of logic hold of trees as they are evaluated, from the left and no further than needed: the
two sides of a law have the same verdict after the same checks, or they fail alike. They hold at any
places of a tree, because what a node stands for depends on its operands only through what these
stand for. One thing a law may change: which operator complains where it wants a verdict or a number
and finds none.
-/

namespace CatalogFilter

namespace Operator

/-- The comparison that holds exactly where this one does not. -/
def complement : Operator → Operator
  | .eq => .ne
  | .ne => .eq
  | .gt => .le
  | .le => .gt
  | .lt => .ge
  | .ge => .lt
  | op => op

theorem isComparison_complement
    {op : Operator} (comparison : op.isComparison = true) :
    op.complement.isComparison = true := by
  cases op <;> first | rfl | cases comparison

theorem ne_and_of_isComparison
    {op : Operator} (comparison : op.isComparison = true) :
    op ≠ .and := by
  rintro rfl
  cases comparison

theorem ne_or_of_isComparison
    {op : Operator} (comparison : op.isComparison = true) :
    op ≠ .or := by
  rintro rfl
  cases comparison

theorem compare?_complement
    {op : Operator} (comparison : op.isComparison = true) (left right : Int) :
    op.complement.compare? left right = (op.compare? left right).map (!·) := by
  cases op with
  | eq | ne | gt | lt | ge | le =>
      rw [complement, compare?, compare?, Option.map_some, Option.some.injEq, Bool.eq_iff_iff]
      simp
  | _ =>
      cases comparison

end Operator

namespace EvalError

/-- The error without the name of the operator that met a value of the wrong kind. -/
def unnamed : EvalError → EvalError
  | .notBoolean _ found => .notBoolean .filter found
  | .notNumeric _ found => .notNumeric .eq found
  | other => other

end EvalError

namespace Expr

/-- The two sides of a law. Each side may stand for the other. -/
inductive Law : Expr → Expr → Prop
  | doubleNegation {operand : Expr} :
      operand.isLiteral = false →
      Law (.unary .not (.unary .not operand)) operand
  | negatedAnd (left right : Expr) :
      Law (.unary .not (.binary .and left right))
        (.binary .or (.unary .not left) (.unary .not right))
  | negatedOr (left right : Expr) :
      Law (.unary .not (.binary .or left right))
        (.binary .and (.unary .not left) (.unary .not right))
  | has (operand : Expr) :
      Law (.unary .has operand) (.unary .not (.unary .lacks operand))
  | lacks (operand : Expr) :
      Law (.unary .lacks operand) (.unary .not (.unary .has operand))
  | andGrouping (first second third : Expr) :
      Law (.binary .and (.binary .and first second) third)
        (.binary .and first (.binary .and second third))
  | orGrouping (first second third : Expr) :
      Law (.binary .or (.binary .or first second) third)
        (.binary .or first (.binary .or second third))
  | negatedComparison {op : Operator} (left right : Expr) :
      op.isComparison = true →
      Law (.unary .not (.binary op left right)) (.binary op.complement left right)

/-- One tree becomes the other by laws, in either direction, at any places: side by side, above and
below one another, and one after the other. -/
inductive Rewrites : Expr → Expr → Prop
  | refl (expr : Expr) :
      Rewrites expr expr
  | law {before after : Expr} :
      Law before after →
      Rewrites before after
  | symm {before after : Expr} :
      Rewrites before after →
      Rewrites after before
  | trans {before middle after : Expr} :
      Rewrites before middle →
      Rewrites middle after →
      Rewrites before after
  | unary (op : Operator) {before after : Expr} :
      Rewrites before after →
      Rewrites (.unary op before) (.unary op after)
  | binary (op : Operator) {left left' right right' : Expr} :
      Rewrites left left' →
      Rewrites right right' →
      Rewrites (.binary op left right) (.binary op left' right')

end Expr

namespace Counted

variable {α β : Type}

/-- The answer without the name of the operator that complains. -/
def unnamed (counted : Counted α) : Counted α :=
  (counted.1.mapError EvalError.unnamed, counted.2)

/-- The opposite verdict. -/
def negate (counted : Counted Bool) : Counted Bool :=
  counted.andThen fun holds checks => (.ok !holds, checks)

/-- A verdict on condition that the one before holds; otherwise it is false. -/
def both (counted : Counted Bool) (next : Nat → Counted Bool) : Counted Bool :=
  counted.andThen fun holds checks => if holds then next checks else (.ok false, checks)

/-- A verdict on condition that the one before does not hold; otherwise it is true. -/
def either (counted : Counted Bool) (next : Nat → Counted Bool) : Counted Bool :=
  counted.andThen fun holds checks => if holds then (.ok true, checks) else next checks

/-- Every fact about a sequence is one about its first step. -/
theorem andThen_congr
    {counted : Counted α} {next other : α → Nat → Counted β}
    (same : ∀ value checks, next value checks = other value checks) :
    counted.andThen next = counted.andThen other := by
  have equal : next = other := by
    funext value checks
    exact same value checks
  rw [equal]

theorem andThen_andThen
    {γ : Type} (counted : Counted α) (next : α → Nat → Counted β) (last : β → Nat → Counted γ) :
    (counted.andThen next).andThen last =
      counted.andThen fun value checks => (next value checks).andThen last := by
  obtain ⟨answer, checks⟩ := counted
  cases answer with
  | error error =>
      rfl
  | ok value =>
      rfl

theorem unnamed_andThen (counted : Counted α) (next : α → Nat → Counted β) :
    (counted.andThen next).unnamed =
      counted.unnamed.andThen fun value checks => (next value checks).unnamed := by
  obtain ⟨answer, checks⟩ := counted
  cases answer with
  | error error =>
      rfl
  | ok value =>
      rfl

theorem andThen_pure (counted : Counted α) :
    (counted.andThen fun value checks => (.ok value, checks)) = counted := by
  obtain ⟨answer, checks⟩ := counted
  cases answer with
  | error error =>
      rfl
  | ok value =>
      rfl

theorem asVerdict_toValue (asker : Asker) (counted : Counted Bool) :
    counted.toValue.asVerdict asker = counted := by
  rw [toValue, asVerdict, andThen_andThen]
  exact andThen_pure counted

/-- Who asks shows in nothing but the name of the complaint. -/
theorem unnamed_asVerdict_congr
    {counted counted' : Counted Value} (asker other : Asker)
    (same : counted.unnamed = counted'.unnamed) :
    (counted.asVerdict asker).unnamed = (counted'.asVerdict other).unnamed := by
  rw [asVerdict, asVerdict, unnamed_andThen, unnamed_andThen, same]
  apply andThen_congr
  intro value checks
  cases value <;> rfl

theorem unnamed_asNumber_congr
    {counted counted' : Counted Value} (op other : Operator)
    (same : counted.unnamed = counted'.unnamed) :
    (counted.asNumber op).unnamed = (counted'.asNumber other).unnamed := by
  rw [asNumber, asNumber, unnamed_andThen, unnamed_andThen, same]
  apply andThen_congr
  intro value checks
  cases value <;> rfl

/-! ## The laws of verdicts -/

theorem negate_negate (counted : Counted Bool) :
    counted.negate.negate = counted := by
  rw [negate, negate, andThen_andThen]
  simp only [andThen_ok, Bool.not_not]
  exact andThen_pure counted

theorem negate_both (counted : Counted Bool) (next : Nat → Counted Bool) :
    (counted.both next).negate = counted.negate.either fun checks => (next checks).negate := by
  rw [both, negate, andThen_andThen, negate, either, andThen_andThen]
  apply andThen_congr
  intro holds checks
  cases holds <;> rfl

theorem negate_either (counted : Counted Bool) (next : Nat → Counted Bool) :
    (counted.either next).negate = counted.negate.both fun checks => (next checks).negate := by
  rw [either, negate, andThen_andThen, negate, both, andThen_andThen]
  apply andThen_congr
  intro holds checks
  cases holds <;> rfl

theorem both_both (counted : Counted Bool) (second third : Nat → Counted Bool) :
    (counted.both second).both third = counted.both fun checks => (second checks).both third := by
  rw [both, both, andThen_andThen, both]
  apply andThen_congr
  intro holds checks
  cases holds <;> rfl

theorem either_either (counted : Counted Bool) (second third : Nat → Counted Bool) :
    (counted.either second).either third =
      counted.either fun checks => (second checks).either third := by
  rw [either, either, andThen_andThen, either]
  apply andThen_congr
  intro holds checks
  cases holds <;> rfl

end Counted

namespace Expr

open Counted

variable {profile : Profile} {subject : Subject}

/-- What a check makes of its operand. -/
def checked (profile : Profile) (subject : Subject) (op : Operator) (operand : Counted Value) :
    Counted Bool :=
  operand.andThen fun needle checks =>
    match needle with
    | .text needle => (profile.check op needle subject, checks + 1)
    | _ => (.error (profile.mismatch subject), checks)

/-- What an operator between two numbers makes of them. -/
def compared (op : Operator) (left : Counted Value) (right : Nat → Counted Value) : Counted Bool :=
  (left.asNumber op).andThen fun leftNumber checks =>
    ((right checks).asNumber op).andThen fun rightNumber checks =>
      match op.compare? leftNumber rightNumber with
      | some holds => (.ok holds, checks)
      | none => (.error (.notNumeric op .operator), checks)

/-! ## What the operators make of their operands -/

theorem value_not (operand : Expr) (checks : Nat) :
    value profile subject (.unary .not operand) checks =
      ((value profile subject operand checks).asVerdict (.operator .not)).negate.toValue := by
  rw [value, negate, toValue, andThen_andThen]
  rfl

theorem value_containment
    {op : Operator} (containment : op = .has ∨ op = .lacks) (operand : Expr) (checks : Nat) :
    value profile subject (.unary op operand) checks =
      (checked profile subject op (value profile subject operand checks)).toValue := by
  have sequence :
      value profile subject (.unary op operand) checks =
        (value profile subject operand checks).andThen fun needle checks =>
          match needle with
          | .text needle => toValue (profile.check op needle subject, checks + 1)
          | _ => (.error (profile.mismatch subject), checks) := by
    rcases containment with rfl | rfl <;> rfl
  rw [sequence, checked, toValue, andThen_andThen]
  apply andThen_congr
  intro needle checks
  cases needle <;> rfl

theorem value_and (left right : Expr) (checks : Nat) :
    value profile subject (.binary .and left right) checks =
      (((value profile subject left checks).asVerdict (.operator .and)).both fun checks =>
        (value profile subject right checks).asVerdict (.operator .and)).toValue := by
  rw [value, both, toValue, andThen_andThen]
  apply andThen_congr
  intro holds checks
  cases holds <;> rfl

theorem value_or (left right : Expr) (checks : Nat) :
    value profile subject (.binary .or left right) checks =
      (((value profile subject left checks).asVerdict (.operator .or)).either fun checks =>
        (value profile subject right checks).asVerdict (.operator .or)).toValue := by
  rw [value, either, toValue, andThen_andThen]
  apply andThen_congr
  intro holds checks
  cases holds <;> rfl

/-- Any operator but the two connectives asks for numbers, whether it can compare them or not. -/
theorem value_compared
    {op : Operator} (notAnd : op ≠ .and) (notOr : op ≠ .or) (left right : Expr) (checks : Nat) :
    value profile subject (.binary op left right) checks =
      (compared op (value profile subject left checks) (value profile subject right)).toValue := by
  have sequence :
      value profile subject (.binary op left right) checks =
        ((value profile subject left checks).asNumber op).andThen fun leftNumber checks =>
          ((value profile subject right checks).asNumber op).andThen fun rightNumber checks =>
            match op.compare? leftNumber rightNumber with
            | some holds => (.ok (.verdict holds), checks)
            | none => (.error (.notNumeric op .operator), checks) := by
    cases op <;> first | rfl | contradiction
  rw [sequence, compared, toValue, andThen_andThen]
  apply andThen_congr
  intro leftNumber checks
  rw [andThen_andThen]
  apply andThen_congr
  intro rightNumber checks
  cases op.compare? leftNumber rightNumber <;> rfl

/-! ## Verdicts without names -/

/-- The verdict that a node has where one is wanted, or why it has none. -/
def truth (profile : Profile) (subject : Subject) (expr : Expr) (checks : Nat) : Counted Bool :=
  ((value profile subject expr checks).asVerdict .filter).unnamed

theorem unnamed_asVerdict_value (asker : Asker) (expr : Expr) (checks : Nat) :
    ((value profile subject expr checks).asVerdict asker).unnamed =
      truth profile subject expr checks :=
  unnamed_asVerdict_congr asker .filter rfl

theorem truth_of_value_eq
    {expr : Expr} {checks : Nat} {counted : Counted Bool}
    (made : value profile subject expr checks = counted.toValue) :
    truth profile subject expr checks = counted.unnamed := by
  rw [truth, made, asVerdict_toValue]

theorem truth_not (operand : Expr) (checks : Nat) :
    truth profile subject (.unary .not operand) checks =
      (truth profile subject operand checks).negate := by
  rw [truth_of_value_eq (value_not operand checks), negate, unnamed_andThen,
    unnamed_asVerdict_value]
  rfl

theorem truth_and (left right : Expr) (checks : Nat) :
    truth profile subject (.binary .and left right) checks =
      (truth profile subject left checks).both (truth profile subject right) := by
  rw [truth_of_value_eq (value_and left right checks), both, unnamed_andThen,
    unnamed_asVerdict_value]
  apply andThen_congr
  intro holds checks
  cases holds with
  | false =>
      rfl
  | true =>
      exact unnamed_asVerdict_value _ right checks

theorem truth_or (left right : Expr) (checks : Nat) :
    truth profile subject (.binary .or left right) checks =
      (truth profile subject left checks).either (truth profile subject right) := by
  rw [truth_of_value_eq (value_or left right checks), either, unnamed_andThen,
    unnamed_asVerdict_value]
  apply andThen_congr
  intro holds checks
  cases holds with
  | true =>
      rfl
  | false =>
      exact unnamed_asVerdict_value _ right checks

theorem truth_compared
    {op : Operator} (notAnd : op ≠ .and) (notOr : op ≠ .or) (left right : Expr) (checks : Nat) :
    truth profile subject (.binary op left right) checks =
      (compared op (value profile subject left checks) (value profile subject right)).unnamed :=
  truth_of_value_eq (value_compared notAnd notOr left right checks)

/-- `has` and `lacks` look in different ways, and the one finds exactly what the other misses. -/
theorem check_lacks (profile : Profile) (needle : String) (subject : Subject) :
    profile.check .lacks needle subject = (profile.check .has needle subject).map (!·) := by
  cases profile with
  | substring =>
      cases subject with
      | text content =>
          exact congrArg Except.ok (Text.isNone_find? content needle)
      | tags _ | year _ =>
          rfl
  | setMembership =>
      cases subject with
      | tags members =>
          have same : members.any (· = needle) = members.contains needle := by
            rw [Bool.eq_iff_iff]
            simp
          exact congrArg (fun found => Except.ok !found) same
      | text _ | year _ =>
          rfl
  | numericYear =>
      rfl

theorem checked_lacks (operand : Counted Value) :
    checked profile subject .lacks operand = (checked profile subject .has operand).negate := by
  rw [checked, checked, negate, andThen_andThen]
  apply andThen_congr
  intro needle checks
  cases needle with
  | text needle =>
      simp only [check_lacks]
      cases profile.check .has needle subject <;> rfl
  | verdict _ | number _ =>
      rfl

/-- Complementary comparisons have opposite verdicts. -/
theorem unnamed_compared_complement
    {op : Operator} (comparison : op.isComparison = true) (left : Counted Value)
    (right : Nat → Counted Value) :
    (compared op.complement left right).unnamed = (compared op left right).unnamed.negate := by
  have anyName (counted : Counted Value) :
      (counted.asNumber op.complement).unnamed = (counted.asNumber op).unnamed :=
    unnamed_asNumber_congr op.complement op rfl
  rw [compared, compared, unnamed_andThen, unnamed_andThen, anyName, negate, andThen_andThen]
  apply andThen_congr
  intro leftNumber checks
  rw [unnamed_andThen, unnamed_andThen, anyName, andThen_andThen]
  apply andThen_congr
  intro rightNumber checks
  have answered := op.isSome_compare? leftNumber rightNumber
  rw [comparison] at answered
  obtain ⟨holds, compares⟩ := Option.isSome_iff_exists.1 answered
  rw [Operator.compare?_complement comparison, compares]
  rfl

theorem unnamed_compared_congr
    {left left' : Counted Value} {right right' : Nat → Counted Value} (op : Operator)
    (leftSame : left.unnamed = left'.unnamed)
    (rightSame : ∀ checks, (right checks).unnamed = (right' checks).unnamed) :
    (compared op left right).unnamed = (compared op left' right').unnamed := by
  rw [compared, compared, unnamed_andThen, unnamed_andThen,
    unnamed_asNumber_congr op op leftSame]
  apply andThen_congr
  intro leftNumber checks
  rw [unnamed_andThen, unnamed_andThen, unnamed_asNumber_congr op op (rightSame checks)]

/-! ## The laws of trees -/

/-- The two nodes stand for the same after the same checks, or fail alike. -/
def Alike (profile : Profile) (subject : Subject) (left right : Expr) : Prop :=
  ∀ checks,
    (value profile subject left checks).unnamed = (value profile subject right checks).unnamed

theorem Alike.truth_eq
    {left right : Expr} (alike : Alike profile subject left right) (checks : Nat) :
    truth profile subject left checks = truth profile subject right checks :=
  unnamed_asVerdict_congr .filter .filter (alike checks)

/-- An operator node stands for its verdict. -/
theorem exists_value_eq_toValue
    {expr : Expr} (operator : expr.isLiteral = false) (checks : Nat) :
    ∃ counted : Counted Bool, value profile subject expr checks = counted.toValue := by
  cases expr with
  | literal text =>
      cases operator
  | unary op operand =>
      cases op with
      | not =>
          exact ⟨_, value_not operand checks⟩
      | has =>
          exact ⟨_, value_containment (.inl rfl) operand checks⟩
      | lacks =>
          exact ⟨_, value_containment (.inr rfl) operand checks⟩
      | _ =>
          exact ⟨(.error _, checks), rfl⟩
  | binary op left right =>
      by_cases isAnd : op = .and
      · subst isAnd
        exact ⟨_, value_and left right checks⟩
      · by_cases isOr : op = .or
        · subst isOr
          exact ⟨_, value_or left right checks⟩
        · exact ⟨_, value_compared isAnd isOr left right checks⟩

theorem alike_of_truth_eq
    {left right : Expr}
    (leftOperator : left.isLiteral = false) (rightOperator : right.isLiteral = false)
    (same : ∀ checks, truth profile subject left checks = truth profile subject right checks) :
    Alike profile subject left right := by
  intro checks
  obtain ⟨leftVerdict, leftMade⟩ := exists_value_eq_toValue leftOperator checks
  obtain ⟨rightVerdict, rightMade⟩ := exists_value_eq_toValue rightOperator checks
  have equal := same checks
  rw [truth_of_value_eq leftMade, truth_of_value_eq rightMade] at equal
  rw [leftMade, rightMade, toValue, toValue, unnamed_andThen, unnamed_andThen, equal]

theorem truth_lacks (operand : Expr) (checks : Nat) :
    truth profile subject (.unary .lacks operand) checks =
      (truth profile subject (.unary .has operand) checks).negate := by
  rw [truth_of_value_eq (value_containment (.inr rfl) operand checks), checked_lacks,
    truth_of_value_eq (value_containment (.inl rfl) operand checks), negate, unnamed_andThen]
  rfl

theorem Law.alike
    {before after : Expr} (law : Law before after) :
    Alike profile subject before after := by
  cases law with
  | doubleNegation operator =>
      apply alike_of_truth_eq rfl operator
      intro checks
      rw [truth_not, truth_not, negate_negate]
  | negatedAnd left right =>
      apply alike_of_truth_eq rfl rfl
      intro checks
      rw [truth_not, truth_and, negate_both, truth_or, truth_not]
      simp only [either, truth_not]
  | negatedOr left right =>
      apply alike_of_truth_eq rfl rfl
      intro checks
      rw [truth_not, truth_or, negate_either, truth_and, truth_not]
      simp only [both, truth_not]
  | has operand =>
      apply alike_of_truth_eq rfl rfl
      intro checks
      rw [truth_not, truth_lacks, negate_negate]
  | lacks operand =>
      apply alike_of_truth_eq rfl rfl
      intro checks
      rw [truth_not, truth_lacks]
  | andGrouping first second third =>
      apply alike_of_truth_eq rfl rfl
      intro checks
      rw [truth_and, truth_and, both_both, truth_and]
      simp only [both, truth_and]
  | orGrouping first second third =>
      apply alike_of_truth_eq rfl rfl
      intro checks
      rw [truth_or, truth_or, either_either, truth_or]
      simp only [either, truth_or]
  | @negatedComparison op left right comparison =>
      apply alike_of_truth_eq rfl rfl
      intro checks
      have opposite := Operator.isComparison_complement comparison
      rw [truth_not,
        truth_compared (Operator.ne_and_of_isComparison comparison)
          (Operator.ne_or_of_isComparison comparison),
        truth_compared (Operator.ne_and_of_isComparison opposite)
          (Operator.ne_or_of_isComparison opposite),
        unnamed_compared_complement comparison]

/-! ## Laws inside a tree -/

theorem Alike.unary
    {before after : Expr} (alike : Alike profile subject before after) (op : Operator) :
    Alike profile subject (.unary op before) (.unary op after) := by
  cases op with
  | not =>
      apply alike_of_truth_eq rfl rfl
      intro checks
      rw [truth_not, truth_not, alike.truth_eq]
  | has | lacks =>
      intro checks
      rw [value_containment (by simp), value_containment (by simp), toValue, toValue, checked,
        checked, andThen_andThen, andThen_andThen, unnamed_andThen, unnamed_andThen, alike checks]
  | _ =>
      intro checks
      rfl

theorem Alike.binary
    {left left' right right' : Expr} (leftAlike : Alike profile subject left left')
    (rightAlike : Alike profile subject right right') (op : Operator) :
    Alike profile subject (.binary op left right) (.binary op left' right') := by
  apply alike_of_truth_eq rfl rfl
  intro checks
  have rightSame : truth profile subject right = truth profile subject right' := by
    funext checks
    exact rightAlike.truth_eq checks
  by_cases isAnd : op = .and
  · subst isAnd
    rw [truth_and, truth_and, leftAlike.truth_eq, rightSame]
  · by_cases isOr : op = .or
    · subst isOr
      rw [truth_or, truth_or, leftAlike.truth_eq, rightSame]
    · rw [truth_compared isAnd isOr, truth_compared isAnd isOr]
      exact unnamed_compared_congr op (leftAlike checks) rightAlike

/-- Laws at any places leave what a tree stands for as it is. -/
theorem Rewrites.alike
    {before after : Expr} (rewrites : Rewrites before after) :
    Alike profile subject before after := by
  induction rewrites with
  | refl expr =>
      intro checks
      rfl
  | law law =>
      exact law.alike
  | symm _ inductionHypothesis =>
      intro checks
      exact (inductionHypothesis checks).symm
  | trans _ _ firstHypothesis secondHypothesis =>
      intro checks
      exact (firstHypothesis checks).trans (secondHypothesis checks)
  | unary op _ inductionHypothesis =>
      exact inductionHypothesis.unary op
  | binary op _ _ leftHypothesis rightHypothesis =>
      exact leftHypothesis.binary rightHypothesis op

theorem unnamed_verdict_eq
    {before after : Expr} (alike : Alike profile subject before after) (checks : Nat) :
    (verdict profile subject before checks).unnamed =
      (verdict profile subject after checks).unnamed := by
  unfold verdict
  split
  · exact alike.truth_eq checks
  · rfl

end Expr

namespace Counted

variable {α : Type}

/-- What answers have in common that differ in names only. -/
theorem agree_of_unnamed_eq
    {left right : Counted α} (same : left.unnamed = right.unnamed) :
    (∀ value, left.1 = .ok value ↔ right.1 = .ok value) ∧
      (∀ error, left.1 = .error error →
        ∃ other, right.1 = .error other ∧ other.unnamed = error.unnamed) ∧
      left.2 = right.2 := by
  obtain ⟨leftAnswer, leftChecks⟩ := left
  obtain ⟨rightAnswer, rightChecks⟩ := right
  obtain ⟨sameAnswer, sameChecks⟩ := Prod.mk.inj same
  refine ⟨?_, ?_, sameChecks⟩
  · intro value
    cases leftAnswer with
    | ok leftValue =>
        cases rightAnswer with
        | ok rightValue =>
            rw [Except.ok.inj sameAnswer]
        | error _ =>
            cases sameAnswer
    | error _ =>
        cases rightAnswer with
        | ok _ =>
            cases sameAnswer
        | error _ =>
            simp
  · rintro error rfl
    cases rightAnswer with
    | ok value =>
        cases sameAnswer
    | error other =>
        exact ⟨other, rfl, (Except.error.inj sameAnswer).symm⟩

end Counted

namespace Expr

/-- Laws at any places of a tree change neither its verdict nor how many checks it takes, nor
whether it fails or in which way: at most another operator complains of the same value. -/
theorem evaluate_of_rewrites
    {before after : Expr} (rewrites : Rewrites before after) (evaluator : Evaluator) :
    (∀ holds,
      (evaluator.evaluate before).1 = .ok holds ↔ (evaluator.evaluate after).1 = .ok holds) ∧
    (∀ error,
      (evaluator.evaluate before).1 = .error error →
        ∃ other,
          (evaluator.evaluate after).1 = .error other ∧ other.unnamed = error.unnamed) ∧
    (evaluator.evaluate before).2 = (evaluator.evaluate after).2 := by
  have alike : Alike evaluator.profile evaluator.subject before after := rewrites.alike
  have same := unnamed_verdict_eq alike evaluator.checks
  obtain ⟨sameVerdict, sameFailure, sameChecks⟩ := Counted.agree_of_unnamed_eq same
  refine ⟨sameVerdict, sameFailure, ?_⟩
  rw [Evaluator.evaluate, Evaluator.evaluate, sameChecks]

/-- A literal stands where a verdict is wanted. Before, `and` complains of it, and afterwards
`not`. -/
theorem evaluate_of_rewrites_renamed :
    let text (content : String) : Expr := .literal content
    let before : Expr :=
      .unary .not
        (.binary .and (.binary .and (.unary .has (text "A")) (.unary .lacks (text "B"))) (text "C"))
    let after : Expr :=
      .binary .or (.unary .lacks (text "A"))
        (.binary .or (.unary .has (text "B")) (.unary .not (text "C")))
    let evaluator := Evaluator.start .setMembership (.tags ["A"])
    Rewrites before after ∧
      evaluator.evaluate before =
        (.error (.notBoolean (.operator .and) .string), ⟨.setMembership, .tags ["A"], 2⟩) ∧
      (∃ other,
        (evaluator.evaluate after).1 = .error other ∧
          other.unnamed = .notBoolean .filter .string) ∧
      (evaluator.evaluate before).2 = (evaluator.evaluate after).2 := by
  intro text before after evaluator
  have grouped := Rewrites.unary .not
    (.law (.andGrouping (.unary .has (text "A")) (.unary .lacks (text "B")) (text "C")))
  have outer := grouped.trans
    (.law (.negatedAnd (.unary .has (text "A"))
      (.binary .and (.unary .lacks (text "B")) (text "C"))))
  have inner := Rewrites.binary .or
    (.symm (.law (.lacks (text "A"))))
    (.law (.negatedAnd (.unary .lacks (text "B")) (text "C")))
  have innermost := Rewrites.binary .or (.refl (.unary .lacks (text "A")))
    (.binary .or (.symm (.law (.has (text "B")))) (.refl (.unary .not (text "C"))))
  have rewrites : Rewrites before after := (outer.trans inner).trans innermost
  have failed :
      evaluator.evaluate before =
        (.error (.notBoolean (.operator .and) .string), ⟨.setMembership, .tags ["A"], 2⟩) := by
    decide +kernel
  obtain ⟨-, sameFailure, sameChecks⟩ := evaluate_of_rewrites rewrites evaluator
  exact ⟨rewrites, failed, sameFailure _ (congrArg Prod.fst failed), sameChecks⟩

end Expr

end CatalogFilter
