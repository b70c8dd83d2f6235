import CatalogFilter.Evaluation.Error
import CatalogFilter.Expr
import CatalogFilter.Text.Integer
import CatalogFilter.Text.Occurrence

/-!
# Evaluation

A tree is asked of a subject under a profile. `and` and `or` look at their right operand only when
the left one leaves the verdict open. Every check of `has` and `lacks` is counted, and the count
goes on whether the evaluation succeeds or fails.
-/

namespace CatalogFilter

namespace Profile

def mismatch (profile : Profile) (subject : Subject) : EvalError :=
  .contextMismatch profile subject.kind

/-- The name of the subject's own number in a query. -/
def yearName : String :=
  "year"

/-- What a literal stands for: itself, or a number where numbers are compared. -/
def literalValue (profile : Profile) (text : String) (subject : Subject) :
    Except EvalError Value :=
  match profile with
  | .substring | .setMembership => .ok (.text text)
  | .numericYear =>
      if text = yearName then
        match subject with
        | .year value => .ok (.number value)
        | other => .error (profile.mismatch other)
      else
        match Text.readInt64? text with
        | some value => .ok (.number value)
        | none => .error (.notAnInteger text)

/-- The check that `has` and `lacks` make. -/
def check (profile : Profile) (op : Operator) (needle : String) (subject : Subject) :
    Except EvalError Bool :=
  match profile, op, subject with
  | .substring, .has, .text content => .ok (content.contains needle)
  | .substring, .lacks, .text content => .ok (content.find? needle).isNone
  | .setMembership, .has, .tags members => .ok (members.contains needle)
  | .setMembership, .lacks, .tags members => .ok !(members.any (· = needle))
  | profile, .has, subject | profile, .lacks, subject => .error (profile.mismatch subject)
  | _, op, _ => .error (.notNumeric op .string)

end Profile

/-- What an evaluation answers, and the checks counted so far. -/
abbrev Counted (α : Type) :=
  Except EvalError α × Nat

namespace Counted

/-- Goes on after a success; a failure ends the evaluation with the checks counted so far. -/
def andThen {α β : Type} (counted : Counted α) (next : α → Nat → Counted β) : Counted β :=
  match counted with
  | (.ok value, checks) => next value checks
  | (.error error, checks) => (.error error, checks)

@[simp]
theorem andThen_ok
    {α β : Type} (value : α) (checks : Nat) (next : α → Nat → Counted β) :
    andThen (.ok value, checks) next = next value checks :=
  rfl

@[simp]
theorem andThen_error
    {α β : Type} (error : EvalError) (checks : Nat) (next : α → Nat → Counted β) :
    andThen (.error error, checks) next = (.error error, checks) :=
  rfl

/-- The verdict that `asker` wants. -/
def asVerdict (asker : Asker) (counted : Counted Value) : Counted Bool :=
  counted.andThen fun value checks =>
    match value with
    | .verdict holds => (.ok holds, checks)
    | other => (.error (.notBoolean asker other.kind), checks)

/-- The number that the comparison `op` wants. -/
def asNumber (op : Operator) (counted : Counted Value) : Counted Int :=
  counted.andThen fun value checks =>
    match value with
    | .number value => (.ok value, checks)
    | other => (.error (.notNumeric op other.kind), checks)

/-- A verdict as a value. -/
def toValue (counted : Counted Bool) : Counted Value :=
  counted.andThen fun holds checks => (.ok (.verdict holds), checks)

end Counted

namespace Expr

open Counted

/-- What a node stands for, with `checks` checks made before. -/
def value (profile : Profile) (subject : Subject) : Expr → Nat → Counted Value
  | .literal text, checks => (profile.literalValue text subject, checks)
  | .unary op operand, checks =>
      match op with
      | .not =>
          ((value profile subject operand checks).asVerdict (.operator .not)).andThen
            fun holds checks => (.ok (.verdict !holds), checks)
      | .has | .lacks =>
          (value profile subject operand checks).andThen fun needle checks =>
            match needle with
            | .text needle =>
                toValue (profile.check op needle subject, checks + 1)
            | _ => (.error (profile.mismatch subject), checks)
      | other => (.error (.notBoolean (.operator other) .operator), checks)
  | .binary op left right, checks =>
      match op with
      | .and =>
          ((value profile subject left checks).asVerdict (.operator .and)).andThen
            fun holds checks =>
              if holds then
                ((value profile subject right checks).asVerdict (.operator .and)).toValue
              else
                (.ok (.verdict false), checks)
      | .or =>
          ((value profile subject left checks).asVerdict (.operator .or)).andThen
            fun holds checks =>
              if holds then
                (.ok (.verdict true), checks)
              else
                ((value profile subject right checks).asVerdict (.operator .or)).toValue
      | op =>
          ((value profile subject left checks).asNumber op).andThen fun leftNumber checks =>
            ((value profile subject right checks).asNumber op).andThen fun rightNumber checks =>
              match op.compare? leftNumber rightNumber with
              | some holds => (.ok (.verdict holds), checks)
              | none => (.error (.notNumeric op .operator), checks)

/-- The verdict of a whole tree, with `checks` checks made before. -/
def verdict (profile : Profile) (subject : Subject) (expr : Expr) (checks : Nat) : Counted Bool :=
  if profile.accepts subject then
    (value profile subject expr checks).asVerdict .filter
  else
    (.error (profile.mismatch subject), checks)

end Expr

/-- Asks trees of one subject, one after the other, and counts the checks of all of them. -/
structure Evaluator where
  profile : Profile
  subject : Subject
  checks : Nat
deriving DecidableEq, Repr

namespace Evaluator

/-- An evaluator that has made no check yet. -/
def start (profile : Profile) (subject : Subject) : Evaluator :=
  ⟨profile, subject, 0⟩

/-- The verdict of a tree and the evaluator after it. -/
def evaluate (evaluator : Evaluator) (expr : Expr) : Except EvalError Bool × Evaluator :=
  let counted := expr.verdict evaluator.profile evaluator.subject evaluator.checks
  (counted.1, { evaluator with checks := counted.2 })

/-- The verdicts of trees in turn, each with the checks counted when it is reached. -/
def evaluateAll (evaluator : Evaluator) : List Expr → List (Except EvalError Bool × Nat)
  | [] => []
  | expr :: rest =>
      let step := evaluator.evaluate expr
      (step.1, step.2.checks) :: evaluateAll step.2 rest

end Evaluator

/-- The verdict of a tree on its own. -/
def Expr.evaluate (profile : Profile) (subject : Subject) (expr : Expr) : Except EvalError Bool :=
  (expr.verdict profile subject 0).1

end CatalogFilter
