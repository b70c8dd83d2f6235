import CatalogFilter.Proofs.Laws
import Mathlib.Algebra.GroupWithZero.Nat

/-!
# How checks are counted

An evaluator goes from tree to tree and only adds to its count. What a tree answers and how many
checks it takes do not depend on what was counted before, also where its evaluation fails. No tree
takes more checks than it has nodes of `has` and `lacks`, and an operand that is left out because
the one before it settles the verdict may be any tree at all.
-/

namespace CatalogFilter

namespace Counted

variable {α β : Type} {bound : Nat} {ask : Nat → Counted α}

/-- After any count there is the same answer and the same number of further checks, which is at most
`bound`. -/
def AddsAtMost (bound : Nat) (ask : Nat → Counted α) : Prop :=
  ∃ answer cost, cost ≤ bound ∧ ∀ checks, ask checks = (answer, checks + cost)

theorem addsAtMost_pure (answer : Except EvalError α) :
    AddsAtMost 0 fun checks => (answer, checks) :=
  ⟨answer, 0, Nat.le_refl 0, fun _ => rfl⟩

namespace AddsAtMost

theorem mono
    {larger : Nat} (adds : AddsAtMost bound ask) (within : bound ≤ larger) :
    AddsAtMost larger ask := by
  obtain ⟨answer, cost, bounded, same⟩ := adds
  exact ⟨answer, cost, Nat.le_trans bounded within, same⟩

theorem congr
    {other : Nat → Counted α} (same : ∀ checks, other checks = ask checks)
    (adds : AddsAtMost bound ask) :
    AddsAtMost bound other := by
  have equal : other = ask := funext same
  rw [equal]
  exact adds

/-- The count that one step hands to the next moves with the count that it began with. -/
theorem andThen
    {later : Nat} {next : α → Nat → Counted β}
    (adds : AddsAtMost bound ask) (addsNext : ∀ value, AddsAtMost later (next value)) :
    AddsAtMost (bound + later) fun checks => (ask checks).andThen next := by
  obtain ⟨answer, cost, bounded, same⟩ := adds
  cases answer with
  | error error =>
      refine ⟨.error error, cost, Nat.le_add_right_of_le bounded, ?_⟩
      intro checks
      simp only [same, andThen_error]
  | ok value =>
      obtain ⟨last, further, boundedNext, sameNext⟩ := addsNext value
      refine ⟨last, cost + further, Nat.add_le_add bounded boundedNext, ?_⟩
      intro checks
      simp only [same, andThen_ok, sameNext, Nat.add_assoc]

theorem andThenUncounted
    {next : α → Nat → Counted β}
    (adds : AddsAtMost bound ask) (uncounted : ∀ value, AddsAtMost 0 (next value)) :
    AddsAtMost bound fun checks => (ask checks).andThen next :=
  adds.andThen uncounted

theorem asVerdict
    {ask : Nat → Counted Value} (adds : AddsAtMost bound ask) (asker : Asker) :
    AddsAtMost bound fun checks => (ask checks).asVerdict asker := by
  apply adds.andThenUncounted
  intro value
  cases value <;> exact addsAtMost_pure _

theorem asNumber
    {ask : Nat → Counted Value} (adds : AddsAtMost bound ask) (op : Operator) :
    AddsAtMost bound fun checks => (ask checks).asNumber op := by
  apply adds.andThenUncounted
  intro value
  cases value <;> exact addsAtMost_pure _

theorem toValue
    {ask : Nat → Counted Bool} (adds : AddsAtMost bound ask) :
    AddsAtMost bound fun checks => (ask checks).toValue :=
  adds.andThenUncounted fun _ => addsAtMost_pure _

theorem negate
    {ask : Nat → Counted Bool} (adds : AddsAtMost bound ask) :
    AddsAtMost bound fun checks => (ask checks).negate :=
  adds.andThenUncounted fun _ => addsAtMost_pure _

theorem both
    {later : Nat} {ask next : Nat → Counted Bool}
    (adds : AddsAtMost bound ask) (addsNext : AddsAtMost later next) :
    AddsAtMost (bound + later) fun checks => (ask checks).both next := by
  apply adds.andThen
  intro holds
  cases holds with
  | true =>
      exact addsNext
  | false =>
      exact (addsAtMost_pure (.ok false)).mono (Nat.zero_le later)

theorem either
    {later : Nat} {ask next : Nat → Counted Bool}
    (adds : AddsAtMost bound ask) (addsNext : AddsAtMost later next) :
    AddsAtMost (bound + later) fun checks => (ask checks).either next := by
  apply adds.andThen
  intro holds
  cases holds with
  | true =>
      exact (addsAtMost_pure (.ok true)).mono (Nat.zero_le later)
  | false =>
      exact addsNext

theorem eq_start (adds : AddsAtMost bound ask) (checks : Nat) :
    ask checks = ((ask 0).1, checks + (ask 0).2) := by
  obtain ⟨answer, cost, _, same⟩ := adds
  rw [same checks, same 0, Nat.zero_add]

theorem snd_start_le (adds : AddsAtMost bound ask) : (ask 0).2 ≤ bound := by
  obtain ⟨answer, cost, bounded, same⟩ := adds
  rw [same 0, Nat.zero_add]
  exact bounded

end AddsAtMost

end Counted

namespace Expr

open Counted

variable {profile : Profile} {subject : Subject}

/-- The number of `has` and `lacks` that stand over an operand. -/
def containments : Expr → Nat
  | .literal _ => 0
  | .unary op operand =>
      if op = .has ∨ op = .lacks then operand.containments + 1 else operand.containments
  | .binary _ left right => left.containments + right.containments

theorem addsAtMost_checked
    {bound : Nat} {ask : Nat → Counted Value} (adds : AddsAtMost bound ask) (op : Operator) :
    AddsAtMost (bound + 1) fun checks => checked profile subject op (ask checks) := by
  apply adds.andThen
  intro needle
  cases needle with
  | text needle =>
      exact ⟨profile.check op needle subject, 1, Nat.le_refl 1, fun _ => rfl⟩
  | verdict _ | number _ =>
      exact (addsAtMost_pure _).mono (Nat.zero_le 1)

theorem addsAtMost_compared
    {leftBound rightBound : Nat} {askLeft askRight : Nat → Counted Value}
    (addsLeft : AddsAtMost leftBound askLeft) (addsRight : AddsAtMost rightBound askRight)
    (op : Operator) :
    AddsAtMost (leftBound + rightBound) fun checks => compared op (askLeft checks) askRight := by
  apply (addsLeft.asNumber op).andThen
  intro leftNumber
  apply (addsRight.asNumber op).andThenUncounted
  intro rightNumber
  cases op.compare? leftNumber rightNumber <;> exact addsAtMost_pure _

theorem addsAtMost_unary
    {operand : Expr} (adds : AddsAtMost operand.containments (value profile subject operand))
    (op : Operator) :
    AddsAtMost (unary op operand).containments (value profile subject (.unary op operand)) := by
  by_cases isNot : op = .not
  · subst isNot
    exact (adds.asVerdict _).negate.toValue.congr (value_not operand)
  · by_cases containment : op = .has ∨ op = .lacks
    · rw [containments, if_pos containment]
      exact (addsAtMost_checked adds op).toValue.congr (value_containment containment operand)
    · -- The other operators stand over nothing: their operand is not even asked.
      have refused (checks : Nat) :
          value profile subject (.unary op operand) checks =
            (.error (.notBoolean (.operator op) .operator), checks) := by
        cases op <;> first | rfl | simp at isNot containment
      exact ((addsAtMost_pure _).mono (Nat.zero_le _)).congr refused

theorem addsAtMost_binary
    {left right : Expr} (addsLeft : AddsAtMost left.containments (value profile subject left))
    (addsRight : AddsAtMost right.containments (value profile subject right)) (op : Operator) :
    AddsAtMost (binary op left right).containments
      (value profile subject (.binary op left right)) := by
  by_cases isAnd : op = .and
  · subst isAnd
    have adds := (addsLeft.asVerdict (.operator .and)).both (addsRight.asVerdict (.operator .and))
    exact adds.toValue.congr (value_and left right)
  · by_cases isOr : op = .or
    · subst isOr
      have adds := (addsLeft.asVerdict (.operator .or)).either (addsRight.asVerdict (.operator .or))
      exact adds.toValue.congr (value_or left right)
    · have adds := addsAtMost_compared addsLeft addsRight op
      exact adds.toValue.congr (value_compared isAnd isOr left right)

/-- Any tree, also one that no query has, adds at most one check for each node that can make
one. -/
theorem addsAtMost_value (profile : Profile) (subject : Subject) (expr : Expr) :
    AddsAtMost expr.containments (value profile subject expr) := by
  induction expr with
  | literal text =>
      exact addsAtMost_pure (profile.literalValue text subject)
  | unary op operand inductionHypothesis =>
      exact addsAtMost_unary inductionHypothesis op
  | binary op left right leftHypothesis rightHypothesis =>
      exact addsAtMost_binary leftHypothesis rightHypothesis op

theorem addsAtMost_verdict (profile : Profile) (subject : Subject) (expr : Expr) :
    AddsAtMost expr.containments (verdict profile subject expr) := by
  unfold verdict
  by_cases accepted : profile.accepts subject = true
  · simp only [accepted, if_true]
    exact (addsAtMost_value profile subject expr).asVerdict .filter
  · simp only [accepted]
    exact (addsAtMost_pure _).mono (Nat.zero_le _)

/-! ## Operands that are left out -/

/-- One tree becomes the other by changes, at any places, to right operands that are not asked: the
left operand of an `and` is false already, or that of an `or` is true. -/
inductive SameWhereAsked (profile : Profile) (subject : Subject) : Expr → Expr → Prop
  | refl (expr : Expr) :
      SameWhereAsked profile subject expr expr
  | behindFalse {left : Expr} (right other : Expr) :
      (value profile subject left 0).1 = .ok (.verdict false) →
      SameWhereAsked profile subject (.binary .and left right) (.binary .and left other)
  | behindTrue {left : Expr} (right other : Expr) :
      (value profile subject left 0).1 = .ok (.verdict true) →
      SameWhereAsked profile subject (.binary .or left right) (.binary .or left other)
  | trans {before middle after : Expr} :
      SameWhereAsked profile subject before middle →
      SameWhereAsked profile subject middle after →
      SameWhereAsked profile subject before after
  | unary (op : Operator) {before after : Expr} :
      SameWhereAsked profile subject before after →
      SameWhereAsked profile subject (.unary op before) (.unary op after)
  | binary (op : Operator) {left left' right right' : Expr} :
      SameWhereAsked profile subject left left' →
      SameWhereAsked profile subject right right' →
      SameWhereAsked profile subject (.binary op left right) (.binary op left' right')

theorem asVerdict_value_of_answered
    {expr : Expr} {holds : Bool}
    (answered : (value profile subject expr 0).1 = .ok (.verdict holds)) (asker : Asker)
    (checks : Nat) :
    ∃ after, (value profile subject expr checks).asVerdict asker = (.ok holds, after) := by
  have same := (addsAtMost_value profile subject expr).eq_start checks
  rw [answered] at same
  rw [same]
  exact ⟨_, rfl⟩

/-- Such trees stand for the same after the same checks, whatever the name of a complaint. -/
theorem SameWhereAsked.value_eq
    {before after : Expr} (same : SameWhereAsked profile subject before after) :
    value profile subject before = value profile subject after := by
  induction same with
  | refl expr =>
      rfl
  | behindFalse right other answered =>
      funext checks
      obtain ⟨after, asked⟩ := asVerdict_value_of_answered answered (.operator .and) checks
      rw [value_and, value_and, asked]
      rfl
  | behindTrue right other answered =>
      funext checks
      obtain ⟨after, asked⟩ := asVerdict_value_of_answered answered (.operator .or) checks
      rw [value_or, value_or, asked]
      rfl
  | trans _ _ firstHypothesis secondHypothesis =>
      exact firstHypothesis.trans secondHypothesis
  | unary op _ inductionHypothesis =>
      funext checks
      simp only [value, inductionHypothesis]
  | binary op _ _ leftHypothesis rightHypothesis =>
      funext checks
      simp only [value, leftHypothesis, rightHypothesis]

end Expr

namespace Evaluator

open Counted

/-- What an evaluator answers is the answer of a new one, and it adds the checks of a new one. -/
theorem evaluate_eq_start (evaluator : Evaluator) (expr : Expr) :
    evaluator.evaluate expr =
      (((start evaluator.profile evaluator.subject).evaluate expr).1,
        { evaluator with
          checks := evaluator.checks +
            ((start evaluator.profile evaluator.subject).evaluate expr).2.checks }) := by
  have adds := Expr.addsAtMost_verdict evaluator.profile evaluator.subject expr
  rw [evaluate, adds.eq_start]
  rfl

/-- The checks that a tree takes on its own. -/
def cost (profile : Profile) (subject : Subject) (expr : Expr) : Nat :=
  ((start profile subject).evaluate expr).2.checks

theorem getElem?_evaluateAll (evaluator : Evaluator) (exprs : List Expr) (index : Nat) :
    (evaluator.evaluateAll exprs)[index]? =
      exprs[index]?.map fun expr =>
        (((start evaluator.profile evaluator.subject).evaluate expr).1,
          evaluator.checks +
            ((exprs.take (index + 1)).map (cost evaluator.profile evaluator.subject)).sum) := by
  induction exprs generalizing evaluator index with
  | nil =>
      rfl
  | cons expr exprs inductionHypothesis =>
      rw [evaluateAll, evaluate_eq_start]
      cases index with
      | zero =>
          simp [cost]
      | succ index =>
          rw [List.getElem?_cons_succ, inductionHypothesis, List.getElem?_cons_succ]
          simp [cost, Nat.add_assoc]

/-- Trees that one evaluator is asked in turn do not touch one another: each has the answer of a new
evaluator, also after failures, and the count is the sum of what each tree takes on its own. A tree
takes at most one check for each of its nodes of `has` and `lacks`. What stands in an operand that
short-circuit leaves out shows neither in the answer nor in the count. -/
theorem evaluations_stay_apart (profile : Profile) (subject : Subject) :
    (∀ (exprs : List Expr) (index : Nat),
      ((start profile subject).evaluateAll exprs)[index]? =
        exprs[index]?.map fun expr =>
          (((start profile subject).evaluate expr).1,
            ((exprs.take (index + 1)).map (cost profile subject)).sum)) ∧
    (∀ expr : Expr, cost profile subject expr ≤ expr.containments) ∧
    (∀ before after : Expr, Expr.SameWhereAsked profile subject before after →
      ∀ checks, Evaluator.evaluate ⟨profile, subject, checks⟩ before =
        Evaluator.evaluate ⟨profile, subject, checks⟩ after) := by
  refine ⟨?_, ?_, ?_⟩
  · intro exprs index
    have inTurn := getElem?_evaluateAll (start profile subject) exprs index
    simpa [start] using inTurn
  · intro expr
    exact (Expr.addsAtMost_verdict profile subject expr).snd_start_le
  · intro before after same checks
    have sameVerdict :
        before.verdict profile subject checks = after.verdict profile subject checks := by
      rw [Expr.verdict, Expr.verdict, same.value_eq]
    rw [evaluate, evaluate, sameVerdict]

/-- The first tree fails, and the one after it is counted on; a tree that no query has can stand
where nobody asks. -/
theorem evaluations_stay_apart_failing :
    let tagged : Expr := .unary .has (.literal "A")
    let failing : Expr := .binary .and tagged (.literal "B")
    let before : Expr := .unary .not (.binary .or tagged (.unary .lacks (.literal "B")))
    let after : Expr := .unary .not (.binary .or tagged (.unary .openParen failing))
    Expr.SameWhereAsked .setMembership (.tags ["A"]) before after ∧
      ((start .setMembership (.tags ["A"])).evaluateAll [failing, before])[0]? =
        some (.error (.notBoolean (.operator .and) .string), 1) ∧
      ((start .setMembership (.tags ["A"])).evaluateAll [failing, before])[1]? =
        some (.ok false, 2) ∧
      cost .setMembership (.tags ["A"]) before ≤ 2 ∧
      Evaluator.evaluate ⟨.setMembership, .tags ["A"], 1⟩ before =
        Evaluator.evaluate ⟨.setMembership, .tags ["A"], 1⟩ after := by
  intro tagged failing before after
  have answered :
      (Expr.value .setMembership (.tags ["A"]) tagged 0).1 = .ok (.verdict true) := by
    decide +kernel
  have same : Expr.SameWhereAsked .setMembership (.tags ["A"]) before after :=
    .unary .not (.behindTrue _ _ answered)
  obtain ⟨inTurn, bounded, unseen⟩ := evaluations_stay_apart .setMembership (.tags ["A"])
  refine ⟨same, ?_, ?_, bounded before, unseen before after same 1⟩
  · rw [inTurn]
    decide +kernel
  · rw [inTurn]
    decide +kernel

end Evaluator

end CatalogFilter
