import CatalogFilter.Proofs.Laws

/-!
# The constants of a query of years

The year of a subject shows only where it is compared with a number. If no number of a query lies
between two years, each of its numbers is on the same side of both, and so the two years compare
alike, with the numbers and with themselves. Asked of the one year and of the other, every node
stands for values that correspond, or fails with the same error. For a whole query this says that
its answer changes only at its own constants.
-/

namespace CatalogFilter

/-- A comparison depends on nothing but the order of its two numbers. -/
theorem Operator.compare?_congr
    {left right left' right' : Int} (op : Operator)
    (less : left < right ↔ left' < right') (greater : right < left ↔ right' < left') :
    op.compare? left right = op.compare? left' right' := by
  have equal : left = right ↔ left' = right' := by
    omega
  have atMost : left ≤ right ↔ left' ≤ right' := by
    omega
  have atLeast : right ≤ left ↔ right' ≤ left' := by
    omega
  cases op <;> simp [compare?, less, greater, equal, atMost, atLeast]

/-- What one place of a tree may hold for the year `first` and for the year `second`: the years
themselves, or a number that does not lie between them. -/
inductive SameSide (first second : Int) : Int → Int → Prop
  | year :
      SameSide first second first second
  | constant {number : Int} :
      number < first ∨ second < number →
      SameSide first second number number

theorem SameSide.compare?_eq
    {first second left right left' right' : Int} (ordered : first ≤ second) (op : Operator)
    (leftSide : SameSide first second left left')
    (rightSide : SameSide first second right right') :
    op.compare? left right = op.compare? left' right' := by
  cases leftSide with
  | year =>
      cases rightSide with
      | year =>
          apply op.compare?_congr <;> simp
      | constant outside =>
          apply op.compare?_congr <;> omega
  | constant outside =>
      cases rightSide with
      | year =>
          apply op.compare?_congr <;> omega
      | constant _ =>
          rfl

/-- What a node may stand for in the two evaluations. -/
inductive Value.Corresponds (first second : Int) : Value → Value → Prop
  | verdict (holds : Bool) :
      Corresponds first second (.verdict holds) (.verdict holds)
  | number {left right : Int} :
      SameSide first second left right →
      Corresponds first second (.number left) (.number right)

namespace Counted

/-- After the same checks both evaluations stand for values that are related, or both fail with the
same error. -/
inductive InStep {α : Type} (related : α → α → Prop) : Counted α → Counted α → Prop
  | success {value other : α} (checks : Nat) :
      related value other →
      InStep related (.ok value, checks) (.ok other, checks)
  | failure (error : EvalError) (checks : Nat) :
      InStep related (.error error, checks) (.error error, checks)

variable {first second : Int} {counted counted' : Counted Value}

/-- A verdict corresponds to itself only. -/
theorem inStep_toValue (counted : Counted Bool) :
    InStep (Value.Corresponds first second) counted.toValue counted.toValue := by
  obtain ⟨answer, checks⟩ := counted
  cases answer with
  | error error =>
      exact .failure error checks
  | ok holds =>
      exact .success checks (.verdict holds)

namespace InStep

/-- Numbers that correspond are of the same kind, so a complaint about them is the same. -/
theorem asVerdict_eq
    (inStep : InStep (Value.Corresponds first second) counted counted') (asker : Asker) :
    counted.asVerdict asker = counted'.asVerdict asker := by
  cases inStep with
  | failure error checks =>
      rfl
  | success checks corresponds =>
      cases corresponds with
      | verdict holds =>
          rfl
      | number _ =>
          rfl

theorem asNumber
    (inStep : InStep (Value.Corresponds first second) counted counted') (op : Operator) :
    InStep (SameSide first second) (counted.asNumber op) (counted'.asNumber op) := by
  cases inStep with
  | failure error checks =>
      exact .failure error checks
  | success checks corresponds =>
      cases corresponds with
      | verdict holds =>
          exact .failure (.notNumeric op .boolean) checks
      | number sameSide =>
          exact .success checks sameSide

/-- Two numbers that are taken in step lead to the same, if they do in each place where they may
be. -/
theorem andThen_eq
    {α β : Type} {related : α → α → Prop} {counted counted' : Counted α}
    {next next' : α → Nat → Counted β} (inStep : InStep related counted counted')
    (same : ∀ value other checks, related value other → next value checks = next' other checks) :
    counted.andThen next = counted'.andThen next' := by
  cases inStep with
  | failure error checks =>
      rfl
  | success checks isRelated =>
      exact same _ _ checks isRelated

end InStep

end Counted

namespace Expr

open Counted

variable {first second : Int}

theorem compared_eq_of_inStep
    {left left' : Counted Value} {right right' : Nat → Counted Value} (op : Operator)
    (ordered : first ≤ second) (leftStep : InStep (Value.Corresponds first second) left left')
    (rightStep : ∀ checks,
      InStep (Value.Corresponds first second) (right checks) (right' checks)) :
    compared op left right = compared op left' right' := by
  rw [compared, compared]
  apply (leftStep.asNumber op).andThen_eq
  intro leftNumber leftNumber' checks leftSide
  apply ((rightStep checks).asNumber op).andThen_eq
  intro rightNumber rightNumber' checks rightSide
  rw [leftSide.compare?_eq ordered op rightSide]

/-- Nothing that is compared is a text, so a check fails, and the year does not show in how. -/
theorem checked_eq_of_inStep
    {operand operand' : Counted Value} (op : Operator)
    (inStep : InStep (Value.Corresponds first second) operand operand') :
    checked .numericYear (.year first) op operand =
      checked .numericYear (.year second) op operand' := by
  rw [checked, checked]
  apply inStep.andThen_eq
  intro needle needle' checks corresponds
  cases corresponds with
  | verdict holds =>
      rfl
  | number _ =>
      rfl

/-- The evaluations of a node for the two years go in step, however many checks were made
before. -/
def StaysInStep (first second : Int) (expr : Expr) : Prop :=
  ∀ checks,
    InStep (Value.Corresponds first second)
      (value .numericYear (.year first) expr checks)
      (value .numericYear (.year second) expr checks)

theorem staysInStep_literal
    {text : String}
    (outside : ∀ number, Text.readInt64? text = some number → number < first ∨ second < number) :
    StaysInStep first second (.literal text) := by
  intro checks
  rw [value, value, Profile.literalValue, Profile.literalValue]
  by_cases isYear : text = Profile.yearName
  · rw [if_pos isYear, if_pos isYear]
    exact .success checks (.number .year)
  · rw [if_neg isYear, if_neg isYear]
    cases read : Text.readInt64? text with
    | none =>
        exact .failure (.notAnInteger text) checks
    | some number =>
        have constant : SameSide first second number number :=
          .constant (outside number read)
        exact .success checks (.number constant)

theorem staysInStep_unary
    {operand : Expr} (inStep : StaysInStep first second operand) (op : Operator) :
    StaysInStep first second (.unary op operand) := by
  intro checks
  by_cases isNot : op = .not
  · subst isNot
    rw [value_not, value_not, (inStep checks).asVerdict_eq]
    exact inStep_toValue _
  · by_cases containment : op = .has ∨ op = .lacks
    · rw [value_containment containment, value_containment containment,
        checked_eq_of_inStep op (inStep checks)]
      exact inStep_toValue _
    · -- No other operator has an operand to ask.
      have refused (subject : Subject) :
          value .numericYear subject (.unary op operand) checks =
            (.error (.notBoolean (.operator op) .operator), checks) := by
        cases op <;> first | rfl | simp at isNot containment
      rw [refused, refused]
      exact .failure _ checks

theorem staysInStep_binary
    {left right : Expr} (ordered : first ≤ second) (leftStep : StaysInStep first second left)
    (rightStep : StaysInStep first second right) (op : Operator) :
    StaysInStep first second (.binary op left right) := by
  intro checks
  by_cases isAnd : op = .and
  · subst isAnd
    simp only [value_and, (leftStep checks).asVerdict_eq, (rightStep _).asVerdict_eq]
    exact inStep_toValue _
  · by_cases isOr : op = .or
    · subst isOr
      simp only [value_or, (leftStep checks).asVerdict_eq, (rightStep _).asVerdict_eq]
      exact inStep_toValue _
    · rw [value_compared isAnd isOr, value_compared isAnd isOr,
        compared_eq_of_inStep op ordered (leftStep checks) rightStep]
      exact inStep_toValue _

/-- Any tree, also one that no query has, is evaluated in step for two years with none of its
numbers from the one to the other. -/
theorem staysInStep
    {expr : Expr} (ordered : first ≤ second)
    (outside : ∀ text ∈ expr.literals, ∀ number,
      Text.readInt64? text = some number → number < first ∨ second < number) :
    StaysInStep first second expr := by
  induction expr with
  | literal text =>
      exact staysInStep_literal (outside text (List.mem_singleton_self text))
  | unary op operand inductionHypothesis =>
      exact staysInStep_unary (inductionHypothesis outside) op
  | binary op left right leftHypothesis rightHypothesis =>
      have leftStep := leftHypothesis fun text member =>
        outside text (List.mem_append_left _ member)
      have rightStep := rightHypothesis fun text member =>
        outside text (List.mem_append_right _ member)
      exact staysInStep_binary ordered leftStep rightStep op

theorem evaluate_eq_of_staysInStep
    {expr : Expr} (inStep : StaysInStep first second expr) :
    expr.evaluate .numericYear (.year first) = expr.evaluate .numericYear (.year second) := by
  have accepted (year : Int) : Profile.numericYear.accepts (.year year) = true :=
    rfl
  rw [evaluate, evaluate, verdict, verdict, if_pos (accepted first), if_pos (accepted second),
    (inStep 0).asVerdict_eq]

/-- The literals of a query's tree are texts that a literal can be written with. -/
theorem WellFormed.isLiteralText_of_mem_literals
    {profile : Profile} {expr : Expr} (wellFormed : expr.WellFormed profile) :
    ∀ text ∈ expr.literals, IsLiteralText text := by
  induction wellFormed with
  | literal isText | containment _ _ isText =>
      simpa [literals] using isText
  | negation _ _ inductionHypothesis =>
      exact inductionHypothesis
  | connective _ _ _ _ leftHypothesis rightHypothesis =>
      intro text member
      rcases List.mem_append.1 member with before | behind
      · exact leftHypothesis text before
      · exact rightHypothesis text behind
  | comparison _ _ leftText rightText =>
      simpa [literals] using ⟨leftText, rightText⟩

end Expr

/-- A query of years answers alike, by the same verdict or the same error, for two years with none
of its whole numbers from the one to the other. -/
theorem Query.evaluate_year_eq_of_constants_outside
    {source : String} {query : Query} {first second : Int}
    (compiled : compile .numericYear source = .ok query) (ordered : first ≤ second)
    (outside : ∀ text ∈ query.root.literals, ∀ number,
      Text.IsDecimal text.toList number → number < first ∨ second < number) :
    query.evaluate (.year first) = query.evaluate (.year second) := by
  have isText := (wellFormed_root compiled).isLiteralText_of_mem_literals
  have inStep : Expr.StaysInStep first second query.root := by
    apply Expr.staysInStep ordered
    intro text member number read
    have written := ((isText text member).readInt64?_eq_some_iff.1 read).1
    exact outside text member number written
  obtain ⟨_, root, _, _, rfl⟩ := compile_eq_ok_iff.1 compiled
  exact Expr.evaluate_eq_of_staysInStep inStep

/-- Past 1990, with a literal that is no number behind `and`: the failure is the same for each of
the years. -/
theorem Query.evaluate_year_eq_of_constants_outside_failing :
    let source := "1990 <= year and not (year != year or year == 19x5)"
    let root : Expr :=
      .binary .and (.binary .le (.literal "1990") (.literal "year"))
        (.unary .not
          (.binary .or (.binary .ne (.literal "year") (.literal "year"))
            (.binary .eq (.literal "year") (.literal "19x5"))))
    compile .numericYear source = .ok ⟨source, .numericYear, root⟩ ∧
      (1991 : Int) ≤ 2024 ∧
      (∀ text ∈ root.literals, ∀ number,
        Text.IsDecimal text.toList number → number < 1991 ∨ 2024 < number) ∧
      root.evaluate .numericYear (.year 1991) = .error (.notAnInteger "19x5") ∧
      root.evaluate .numericYear (.year 2024) = .error (.notAnInteger "19x5") := by
  intro source root
  have compiled : compile .numericYear source = .ok ⟨source, .numericYear, root⟩ := by
    decide +kernel
  have ordered : (1991 : Int) ≤ 2024 := by
    decide
  have noNumber {text : String} (other : text.toList.all Text.isDecimalChar = false)
      {number : Int} (decimal : Text.IsDecimal text.toList number) : False := by
    rw [decimal.all_isDecimalChar] at other
    cases other
  have outside : ∀ text ∈ root.literals, ∀ number,
      Text.IsDecimal text.toList number → number < 1991 ∨ 2024 < number := by
    intro text member number decimal
    simp only [root, Expr.literals, List.cons_append, List.nil_append, List.mem_cons,
      List.not_mem_nil, or_false] at member
    rcases member with rfl | rfl | rfl | rfl | rfl | rfl
    · have same : number = 1990 := decimal.unique (Text.isDecimal_toString 1990)
      omega
    all_goals
      exact (noNumber (by decide) decimal).elim
  have failed : root.evaluate .numericYear (.year 1991) = .error (.notAnInteger "19x5") := by
    decide +kernel
  have alike := evaluate_year_eq_of_constants_outside compiled ordered outside
  exact ⟨compiled, ordered, outside, failed, alike.symm.trans failed⟩

end CatalogFilter
