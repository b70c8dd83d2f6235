import CatalogFilter.Catalog.Selection
import CatalogFilter.Proofs.Counting

/-!
# Short-circuit in filters and in trees

A filter asks its clauses in turn, and a connective its operands. Both go on by one rule, which has
the mode as its parameter: a failure ends the asking, and so does the verdict that settles the
matter; the other verdict leaves the answer to what comes next. Clauses that are asked under `all`
go with `and`, and clauses under `any` with `or`.
-/

namespace CatalogFilter

namespace MatchMode

/-- The operator that combines verdicts as the mode does. -/
def connective : MatchMode → Operator
  | .all => .and
  | .any => .or

/-- The verdict after which nothing more is asked. -/
def decisive : MatchMode → Bool
  | .all => false
  | .any => true

/-- What comes of an answer and of the one after it. -/
def thenAsk (mode : MatchMode) (first next : Except EvalError Bool) : Except EvalError Bool :=
  match first with
  | .ok holds => if holds = mode.decisive then .ok holds else next
  | .error error => .error error

variable (mode : MatchMode)

theorem thenAsk_undecided (first : Except EvalError Bool) :
    mode.thenAsk first (.ok !mode.decisive) = first := by
  cases first with
  | error error =>
      rfl
  | ok holds =>
      cases mode <;> cases holds <;> rfl

theorem thenAsk_assoc (first second third : Except EvalError Bool) :
    mode.thenAsk (mode.thenAsk first second) third =
      mode.thenAsk first (mode.thenAsk second third) := by
  cases first with
  | error error =>
      rfl
  | ok holds =>
      by_cases settled : holds = mode.decisive
      · simp [thenAsk, settled]
      · simp [thenAsk, settled]

end MatchMode

namespace Filter

/-- Asks clauses in order up to the first that fails or settles the verdict. -/
def askClauses (mode : MatchMode) (record : Record) : List Clause → Except EvalError Bool
  | [] => .ok !mode.decisive
  | clause :: rest => mode.thenAsk (clause.holds record) (askClauses mode record rest)

theorem allHold_eq_askClauses (record : Record) (clauses : List Clause) :
    allHold record clauses = askClauses .all record clauses := by
  induction clauses with
  | nil =>
      rfl
  | cons clause clauses inductionHypothesis =>
      rw [allHold, askClauses, inductionHypothesis]
      rcases clause.holds record with error | holds
      · rfl
      · cases holds <;> rfl

theorem anyHolds_eq_askClauses (record : Record) (clauses : List Clause) :
    anyHolds record clauses = askClauses .any record clauses := by
  induction clauses with
  | nil =>
      rfl
  | cons clause clauses inductionHypothesis =>
      rw [anyHolds, askClauses, inductionHypothesis]
      rcases clause.holds record with error | holds
      · rfl
      · cases holds <;> rfl

theorem passes_eq_askClauses
    {filter : Filter} (nonempty : filter.clauses ≠ []) (record : Record) :
    filter.passes record = askClauses filter.mode record filter.clauses := by
  obtain ⟨name, mode, clauses⟩ := filter
  cases mode with
  | all =>
      exact allHold_eq_askClauses record clauses
  | any =>
      cases clauses with
      | nil =>
          exact absurd rfl nonempty
      | cons clause clauses =>
          exact anyHolds_eq_askClauses record (clause :: clauses)

/-- A filter that asks nothing lets every record pass, whatever its mode. -/
theorem passes_of_clauses_eq_nil
    {filter : Filter} (empty : filter.clauses = []) (record : Record) :
    filter.passes record = .ok true := by
  obtain ⟨name, mode, clauses⟩ := filter
  obtain rfl := empty
  cases mode <;> rfl

end Filter

namespace Counted

variable {counted : Counted Bool} {next : Nat → Counted Bool} {answer : Except EvalError Bool}

theorem fst_both (same : ∀ checks, (next checks).1 = answer) :
    (counted.both next).1 = MatchMode.all.thenAsk counted.1 answer := by
  obtain ⟨first, checks⟩ := counted
  rcases first with error | holds
  · rfl
  · cases holds with
    | false =>
        rfl
    | true =>
        exact same checks

theorem fst_either (same : ∀ checks, (next checks).1 = answer) :
    (counted.either next).1 = MatchMode.any.thenAsk counted.1 answer := by
  obtain ⟨first, checks⟩ := counted
  rcases first with error | holds
  · rfl
  · cases holds with
    | false =>
        exact same checks
    | true =>
        rfl

end Counted

namespace Expr

open Counted

variable {profile : Profile} {subject : Subject}

/-- What a node answers where `asker` wants its verdict; how often that was checked is left out. -/
def asked (profile : Profile) (subject : Subject) (asker : Asker) (expr : Expr) :
    Except EvalError Bool :=
  ((value profile subject expr 0).asVerdict asker).1

theorem fst_asVerdict_value (asker : Asker) (expr : Expr) (checks : Nat) :
    ((value profile subject expr checks).asVerdict asker).1 =
      asked profile subject asker expr := by
  have adds := (addsAtMost_value profile subject expr).asVerdict asker
  rw [adds.eq_start checks, asked]

/-- A connective makes its verdict of those of its operands, as a filter does of its clauses. -/
theorem exists_value_connective
    (profile : Profile) (subject : Subject) (mode : MatchMode) (left right : Expr) :
    ∃ counted : Counted Bool,
      value profile subject (.binary mode.connective left right) 0 = counted.toValue ∧
        counted.1 =
          mode.thenAsk (asked profile subject (.operator mode.connective) left)
            (asked profile subject (.operator mode.connective) right) := by
  cases mode with
  | all =>
      exact ⟨_, value_and left right 0, fst_both (fst_asVerdict_value _ right)⟩
  | any =>
      exact ⟨_, value_or left right 0, fst_either (fst_asVerdict_value _ right)⟩

/-- Who asks a connective does not show, since it stands for a verdict or fails by itself. -/
theorem asked_connective (mode : MatchMode) (asker : Asker) (left right : Expr) :
    asked profile subject asker (.binary mode.connective left right) =
      mode.thenAsk (asked profile subject (.operator mode.connective) left)
        (asked profile subject (.operator mode.connective) right) := by
  obtain ⟨counted, made, answered⟩ :=
    exists_value_connective profile subject mode left right
  rw [asked, made, asVerdict_toValue, answered]

theorem asked_not (asker : Asker) (operand : Expr) :
    asked profile subject asker (.unary .not operand) =
      (asked profile subject (.operator .not) operand).map (!·) := by
  rw [asked, value_not, asVerdict_toValue, negate, asked]
  rcases (value profile subject operand 0).asVerdict (.operator .not) with ⟨error | holds, checks⟩
  · rfl
  · rfl

theorem asked_containment
    {op : Operator} (containment : op = .has ∨ op = .lacks) (looks : profile ≠ .numericYear)
    (asker : Asker) (needle : String) :
    asked profile subject asker (.unary op (.literal needle)) =
      profile.check op needle subject := by
  rw [asked, value_containment containment, asVerdict_toValue, value,
    literalValue_of_ne_numericYear looks]
  rfl

theorem evaluate_eq_asked
    (accepted : profile.accepts subject = true) (expr : Expr) :
    expr.evaluate profile subject = asked profile subject .filter expr := by
  rw [evaluate, verdict, if_pos accepted, asked]

end Expr

theorem Clause.holds_eq_asked (clause : Clause) (record : Record) :
    clause.holds record =
      Expr.asked clause.query.profile
        (Catalog.subjectOf clause.query.profile (record.field? clause.field)) .filter
        clause.query.root :=
  Expr.evaluate_eq_asked (Catalog.accepts_subjectOf _ _) clause.query.root

end CatalogFilter
