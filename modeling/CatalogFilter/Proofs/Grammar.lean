import CatalogFilter.Expr
import CatalogFilter.Profile
import CatalogFilter.Token

/-!
# The grammar of queries

Four kinds of phrases make up a query:

* an operand is a literal, possibly in parentheses;
* a primary is an operand, a prefix operator with what it takes, or an expression in parentheses;
* a comparison is a primary, or two operands with a comparison symbol between them;
* an expression is a comparison, or an expression, `and` or `or`, and a comparison.

A derivation fixes the tree that the tokens denote and how deeply they nest. Parentheses leave no
node. The grammar says nothing about bounds on depth or nesting, and nothing about how tokens are
read.
-/

namespace CatalogFilter

namespace Token

/-- The token is `op`, and the profile has this operator. -/
def Writes (profile : Profile) (op : Operator) (token : Token) : Prop :=
  token.kind = .operator op ∧ profile.supports op = true

/-- The tokens before the one that marks the end of a query, or all of them. -/
def beforeFinish (tokens : List Token) : List Token :=
  tokens.takeWhile fun token => token.kind ≠ .finish

end Token

/-- What a run of tokens can be in a query. -/
inductive Phrase where
  | operand
  | primary
  | comparison
  | expression
deriving DecidableEq, Repr

/-- `Derives profile phrase tokens expr nesting` means that `tokens` are a phrase of
this kind, that they denote `expr`, and that they nest to `nesting` levels. -/
inductive Derives (profile : Profile) :
    Phrase → List Token → Expr → Nat → Prop
  | literal {token : Token} :
      token.kind = .literal →
      Derives profile .operand [token] (.literal token.text) 1
  | operandGroup
      {opening closing : Token} {tokens : List Token} {expr : Expr} {nesting : Nat} :
      opening.Writes profile .openParen →
      closing.Writes profile .closeParen →
      Derives profile .operand tokens expr nesting →
      Derives profile .operand (opening :: (tokens ++ [closing])) expr (nesting + 1)
  | ofOperand {tokens : List Token} {expr : Expr} {nesting : Nat} :
      Derives profile .operand tokens expr nesting →
      Derives profile .primary tokens expr nesting
  | negation {sign : Token} {tokens : List Token} {expr : Expr} {nesting : Nat} :
      sign.Writes profile .not →
      Derives profile .primary tokens expr nesting →
      Derives profile .primary (sign :: tokens) (.unary .not expr) (nesting + 1)
  | containment
      {op : Operator} {sign : Token} {tokens : List Token} {expr : Expr}
      {nesting : Nat} :
      op = .has ∨ op = .lacks →
      sign.Writes profile op →
      Derives profile .operand tokens expr nesting →
      Derives profile .primary (sign :: tokens) (.unary op expr) (nesting + 1)
  | group
      {opening closing : Token} {tokens : List Token} {expr : Expr} {nesting : Nat} :
      opening.Writes profile .openParen →
      closing.Writes profile .closeParen →
      Derives profile .expression tokens expr nesting →
      Derives profile .primary (opening :: (tokens ++ [closing])) expr (nesting + 1)
  | ofPrimary {tokens : List Token} {expr : Expr} {nesting : Nat} :
      Derives profile .primary tokens expr nesting →
      Derives profile .comparison tokens expr nesting
  | comparison
      {op : Operator} {sign : Token} {before after : List Token}
      {left right : Expr} {leftNesting rightNesting : Nat} :
      op.isComparison = true →
      sign.Writes profile op →
      Derives profile .operand before left leftNesting →
      Derives profile .operand after right rightNesting →
      Derives profile .comparison
        (before ++ sign :: after) (.binary op left right)
        (max leftNesting (1 + rightNesting))
  | ofComparison {tokens : List Token} {expr : Expr} {nesting : Nat} :
      Derives profile .comparison tokens expr nesting →
      Derives profile .expression tokens expr nesting
  | connective
      {op : Operator} {sign : Token} {before after : List Token}
      {left right : Expr} {leftNesting rightNesting : Nat} :
      op = .and ∨ op = .or →
      sign.Writes profile op →
      Derives profile .expression before left leftNesting →
      Derives profile .comparison after right rightNesting →
      Derives profile .expression
        (before ++ sign :: after) (.binary op left right)
        (max leftNesting (1 + rightNesting))

namespace Derives

variable {profile : Profile} {phrase : Phrase} {tokens : List Token}
variable {expr : Expr} {nesting : Nat}

theorem isLiteral_of_operand
    (derivation : Derives profile .operand tokens expr nesting) :
    expr.isLiteral = true := by
  generalize same : Phrase.operand = phrase at derivation
  induction derivation with
  | literal kind =>
      rfl
  | operandGroup _ _ _ inductionHypothesis =>
      exact inductionHypothesis same
  | _ =>
      cases same

/-- Tokens that denote a literal are an operand, whatever else they are. -/
theorem operand_of_isLiteral
    (derivation : Derives profile phrase tokens expr nesting)
    (isLiteral : expr.isLiteral = true) :
    Derives profile .operand tokens expr nesting := by
  induction derivation with
  | literal kind =>
      exact .literal kind
  | operandGroup opening closing _ inductionHypothesis
  | group opening closing _ inductionHypothesis =>
      exact .operandGroup opening closing (inductionHypothesis isLiteral)
  | ofOperand operand _ =>
      exact operand
  | ofPrimary _ inductionHypothesis
  | ofComparison _ inductionHypothesis =>
      exact inductionHypothesis isLiteral
  | negation | containment | comparison | connective =>
      cases isLiteral

theorem expression_of_primary
    (derivation : Derives profile .primary tokens expr nesting) :
    Derives profile .expression tokens expr nesting := by
  apply Derives.ofComparison
  exact .ofPrimary derivation

theorem nesting_pos
    (derivation : Derives profile phrase tokens expr nesting) :
    0 < nesting := by
  induction derivation <;> omega

/-- Each level of nesting takes a token of its own, and so does each level of the tree. -/
theorem bounds_le_length (derivation : Derives profile phrase tokens expr nesting) :
    nesting ≤ tokens.length ∧ expr.depth ≤ tokens.length := by
  induction derivation with
  | literal =>
      simp [Expr.depth]
  | operandGroup _ _ _ inductionHypothesis | group _ _ _ inductionHypothesis =>
      simp only [List.length_cons, List.length_append]
      omega
  | ofOperand _ inductionHypothesis
  | ofPrimary _ inductionHypothesis
  | ofComparison _ inductionHypothesis =>
      exact inductionHypothesis
  | negation _ _ inductionHypothesis | containment _ _ _ inductionHypothesis =>
      simp only [List.length_cons, Expr.depth]
      omega
  | comparison _ _ _ _ leftHypothesis rightHypothesis
  | connective _ _ _ _ leftHypothesis rightHypothesis =>
      simp only [List.length_append, List.length_cons, Expr.depth]
      omega

/-- No phrase reaches past the end of a query. -/
theorem kind_ne_finish
    (derivation : Derives profile phrase tokens expr nesting) :
    ∀ token ∈ tokens, token.kind ≠ .finish := by
  induction derivation with
  | literal kind =>
      simp [kind]
  | operandGroup opening closing _ inductionHypothesis
  | group opening closing _ inductionHypothesis =>
      simp only [List.mem_cons, List.mem_append, List.not_mem_nil, or_false]
      rintro token (rfl | member | rfl)
      · simp [opening.1]
      · exact inductionHypothesis token member
      · simp [closing.1]
  | ofOperand _ inductionHypothesis
  | ofPrimary _ inductionHypothesis
  | ofComparison _ inductionHypothesis =>
      exact inductionHypothesis
  | negation sign _ inductionHypothesis
  | containment _ sign _ inductionHypothesis =>
      simp only [List.mem_cons]
      rintro token (rfl | member)
      · simp [sign.1]
      · exact inductionHypothesis token member
  | comparison _ sign _ _ leftHypothesis rightHypothesis
  | connective _ sign _ _ leftHypothesis rightHypothesis =>
      simp only [List.mem_append, List.mem_cons]
      rintro token (member | rfl | member)
      · exact leftHypothesis token member
      · simp [sign.1]
      · exact rightHypothesis token member

end Derives

end CatalogFilter
