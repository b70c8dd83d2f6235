import CatalogFilter.Proofs.ReaderSoundness

/-!
# Every phrase is read

Reading a phrase that stands ahead comes to the tree that the phrase denotes, with the tokens
after it ahead, or it stops because the phrase exceeds a bound. Nothing else can happen, whatever
comes after the phrase, as long as that does not bind into it.

An expression grows to the left while the reader's loop runs forward. So what is said of reading a
phrase leaves the loop open: the reading is the loop, resumed behind the phrase.
-/

namespace CatalogFilter

namespace Phrase

/-- Operators of this phrase all bind more tightly than `threshold`. -/
def Within (threshold : Nat) : Phrase → Prop
  | .operand | .primary => True
  | .comparison => threshold < Operator.eq.bindingPower
  | .expression => threshold < Operator.and.bindingPower

/-- How tightly a token after this phrase may bind. -/
def follow : Phrase → Nat
  | .operand | .primary => Operator.has.bindingPower
  | .comparison | .expression => Operator.and.bindingPower

end Phrase

theorem Operator.bindingPower_le_not (op : Operator) :
    op.bindingPower ≤ Operator.not.bindingPower := by
  cases op <;> decide

theorem Token.closes_not (tokens : List Token) :
    Token.Closes Operator.not.bindingPower tokens := by
  intro token _
  unfold Token.bindingPower
  split
  · exact Operator.bindingPower_le_not _
  · exact Nat.zero_le _
  · exact Nat.zero_le _

namespace Expr

/-- The reading has come to `expr` within bounds and goes on from there, or it has found that a
bound is exceeded. -/
inductive Arrives (limit levels : Nat) (reading : Reading Measured)
    (onward : Measured → Cursor → Reading Measured) (expr : Expr) (nesting : Nat)
    (rest : List Token) : Prop
  | reached (cursor : Cursor) :
      nesting ≤ levels →
      expr.depth ≤ limit →
      cursor.rest = rest →
      reading = onward ⟨expr, expr.depth⟩ cursor →
      Arrives limit levels reading onward expr nesting rest
  | tooDeep (offset : Nat) (cursor : Cursor) :
      levels < nesting ∨ limit < expr.depth →
      reading = (.error (.tooDeep offset), cursor) →
      Arrives limit levels reading onward expr nesting rest

/-- Nothing more is read. -/
def halt (result : Measured) (cursor : Cursor) : Reading Measured :=
  (.ok result, cursor)

/-- Reading such a phrase above a threshold is reading on behind it. -/
def Readable (limit : Nat) (profile : Profile) (phrase : Phrase) (tokens : List Token)
    (expr : Expr) (nesting : Nat) : Prop :=
  ∀ (levels threshold : Nat) (cursor : Cursor) (rest : List Token),
    phrase.Within threshold →
    cursor.rest = tokens ++ rest →
    Token.Closes phrase.follow rest →
    Arrives limit (levels + 1)
      (readAbove limit profile (readWithin limit profile levels) threshold cursor)
      (readRest limit profile (readWithin limit profile levels) threshold) expr nesting rest

namespace Arrives

variable {limit levels nesting : Nat} {reading : Reading Measured} {expr : Expr}
variable {rest : List Token} {onward : Measured → Cursor → Reading Measured}

theorem unary
    {op : Operator} {offset : Nat} {make : Measured → Except ParseError Measured}
    (inner : Arrives limit levels reading halt expr nesting rest)
    (makes : make ⟨expr, expr.depth⟩ = unaryNode limit op offset ⟨expr, expr.depth⟩) :
    Arrives limit (levels + 1)
      ((reading.andThen fun operand after => (make operand, after)).andThen onward)
      onward (.unary op expr) (nesting + 1) rest := by
  cases inner with
  | reached cursor within shallow ahead arrived =>
      subst arrived
      rw [halt, Reading.andThen_ok, makes, unaryNode_eq]
      by_cases room : expr.depth < limit
      · rw [if_pos room, Reading.andThen_ok]
        refine .reached cursor (by omega) ?_ ahead ?_
        · simp only [Expr.depth]
          omega
        · simp only [Expr.depth, Nat.add_comm]
      · rw [if_neg room, Reading.andThen_error]
        refine .tooDeep offset cursor (.inr ?_) rfl
        simp only [Expr.depth]
        omega
  | tooDeep place cursor exceeds arrived =>
      subst arrived
      refine .tooDeep place cursor ?_ rfl
      simp only [Expr.depth]
      omega

theorem binary
    {op : Operator} {offset leftNesting : Nat} {left : Expr}
    {make : Measured → Except ParseError Measured}
    (leftWithin : leftNesting ≤ levels + 1)
    (right : Arrives limit levels reading halt expr nesting rest)
    (makes : make ⟨expr, expr.depth⟩ =
      binaryNode limit op offset ⟨left, left.depth⟩ ⟨expr, expr.depth⟩) :
    Arrives limit (levels + 1)
      ((reading.andThen fun operand after => (make operand, after)).andThen onward)
      onward (.binary op left expr) (max leftNesting (1 + nesting)) rest := by
  cases right with
  | reached cursor within shallow ahead arrived =>
      subst arrived
      rw [halt, Reading.andThen_ok, makes, binaryNode_eq]
      by_cases room : max left.depth expr.depth < limit
      · rw [if_pos room, Reading.andThen_ok]
        refine .reached cursor (by omega) ?_ ahead ?_
        · simp only [Expr.depth]
          omega
        · simp only [Expr.depth, Nat.add_comm]
      · rw [if_neg room, Reading.andThen_error]
        refine .tooDeep offset cursor (.inr ?_) rfl
        simp only [Expr.depth]
        omega
  | tooDeep place cursor exceeds arrived =>
      subst arrived
      refine .tooDeep place cursor ?_ rfl
      simp only [Expr.depth]
      omega

end Arrives

namespace Readable

variable {limit : Nat} {profile : Profile} {phrase : Phrase} {tokens : List Token} {expr : Expr}
variable {nesting : Nat}

/-- The loop ends behind a phrase that nothing tighter follows. -/
theorem arrives_readWithin
    (readable : Readable limit profile phrase tokens expr nesting)
    (positive : 0 < nesting) (levels : Nat) {threshold : Nat} {cursor : Cursor}
    {rest : List Token}
    (within : phrase.Within threshold)
    (ahead : cursor.rest = tokens ++ rest)
    (follows : Token.Closes phrase.follow rest)
    (closes : Token.Closes threshold rest) :
    Arrives limit levels (readWithin limit profile levels threshold cursor) halt expr nesting
      rest := by
  cases levels with
  | zero =>
      exact .tooDeep cursor.offset cursor (.inl positive) rfl
  | succ levels =>
      unfold readWithin
      cases readable levels threshold cursor.enter rest within ahead follows with
      | reached after fits shallow left arrived =>
          rw [arrived, readRest_of_closes _ (left.symm ▸ closes)]
          exact .reached after.leave fits shallow left rfl
      | tooDeep offset after exceeds arrived =>
          rw [arrived]
          exact .tooDeep offset after.leave exceeds rfl

theorem literal
    {token : Token} (positive : 0 < limit) (kind : token.kind = .literal) :
    Readable limit profile .operand [token] (.literal token.text) 1 := by
  intro levels threshold cursor rest _ ahead _
  rw [readAbove_eq_readRest ahead, readStart_of_literal kind]
  exact .reached { cursor with rest } (by omega) positive rfl rfl

theorem group
    {outer : Phrase} {opening closing : Token}
    (openSign : opening.Writes profile .openParen)
    (closeSign : closing.Writes profile .closeParen)
    (inner : Readable limit profile phrase tokens expr nesting)
    (positive : 0 < nesting) (within : phrase.Within Operator.openParen.bindingPower) :
    Readable limit profile outer (opening :: (tokens ++ [closing])) expr (nesting + 1) := by
  intro levels threshold cursor rest _ ahead _
  have split : cursor.rest = opening :: (tokens ++ closing :: rest) := by
    simpa using ahead
  have closes (bound : Nat) : Token.Closes bound (closing :: rest) := by
    simp [Token.bindingPower_of_operator closeSign.1, Operator.bindingPower]
  have arrives :
      Arrives limit levels
        (readWithin limit profile levels Operator.openParen.bindingPower
          { cursor with rest := tokens ++ closing :: rest })
        halt expr nesting (closing :: rest) :=
    inner.arrives_readWithin positive levels within rfl (closes _) (closes _)
  rw [readAbove_eq_readRest split, readStart_of_openParen openSign.1 openSign.2]
  cases arrives with
  | reached after fits shallow left arrived =>
      have closed :
          closeGroup opening.offset ⟨expr, expr.depth⟩ after =
            (.ok ⟨expr, expr.depth⟩, { after with rest }) :=
        closeGroup_eq_ok_iff.2 ⟨rfl, closing, rest, closeSign.1, left, rfl⟩
      rw [arrived, halt, Reading.andThen_ok, closed, Reading.andThen_ok]
      exact .reached { after with rest } (by omega) shallow rfl rfl
  | tooDeep offset after exceeds arrived =>
      rw [arrived, Reading.andThen_error, Reading.andThen_error]
      exact .tooDeep offset after (by omega) rfl

theorem negation
    {sign : Token} (writes : sign.Writes profile .not)
    (inner : Readable limit profile .primary tokens expr nesting) (positive : 0 < nesting) :
    Readable limit profile .primary (sign :: tokens) (.unary .not expr) (nesting + 1) := by
  intro levels threshold cursor rest _ ahead follows
  have closes : Token.Closes Operator.not.bindingPower rest := Token.closes_not rest
  rw [readAbove_eq_readRest ahead, readStart_of_not writes.1 writes.2]
  apply Arrives.unary
  · exact inner.arrives_readWithin positive levels trivial rfl follows closes
  · rfl

theorem containment
    {op : Operator} {sign : Token} (containment : op = .has ∨ op = .lacks)
    (writes : sign.Writes profile op)
    (inner : Readable limit profile .operand tokens expr nesting) (positive : 0 < nesting)
    (literal : expr.isLiteral = true) :
    Readable limit profile .primary (sign :: tokens) (.unary op expr) (nesting + 1) := by
  intro levels threshold cursor rest _ ahead follows
  have power : Operator.has.bindingPower = op.bindingPower := by
    rcases containment with rfl | rfl <;> rfl
  have closes : Token.Closes op.bindingPower rest := power ▸ follows
  have passes : requireLiteral op ⟨expr, expr.depth⟩ = .ok ⟨expr, expr.depth⟩ :=
    requireLiteral_of_isLiteral op literal
  rw [readAbove_eq_readRest ahead, readStart_of_containment containment writes.1 writes.2]
  apply Arrives.unary
  · exact inner.arrives_readWithin positive levels trivial rfl follows closes
  · rw [passes]
    rfl

section Infix

variable {op : Operator} {sign : Token} {leftTokens rightTokens : List Token} {left right : Expr}
variable {leftNesting rightNesting : Nat}

theorem comparison
    (comparison : op.isComparison = true) (writes : sign.Writes profile op)
    (before : Readable limit profile .operand leftTokens left leftNesting)
    (leftLiteral : left.isLiteral = true)
    (after : Readable limit profile .operand rightTokens right rightNesting)
    (rightLiteral : right.isLiteral = true) (positive : 0 < rightNesting) :
    Readable limit profile .comparison (leftTokens ++ sign :: rightTokens)
      (.binary op left right) (max leftNesting (1 + rightNesting)) := by
  intro levels threshold cursor rest within ahead follows
  have power : op.bindingPower = Operator.has.bindingPower := by
    cases op <;> first | rfl | cases comparison
  have signPower := Token.bindingPower_of_operator writes.1
  have binds : threshold < sign.bindingPower := by
    rw [signPower, power]
    exact within
  have split : cursor.rest = leftTokens ++ sign :: (rightTokens ++ rest) := by
    simpa using ahead
  have loose : Token.Closes Operator.has.bindingPower rest := follows.mono (by decide)
  have signFollows : Token.Closes Phrase.operand.follow (sign :: (rightTokens ++ rest)) := by
    simp [signPower, power, Phrase.follow]
  cases before levels threshold cursor _ trivial split signFollows with
  | tooDeep offset stop exceeds arrived =>
      refine .tooDeep offset stop ?_ arrived
      simp only [Expr.depth]
      omega
  | reached middle fits shallow remains arrived =>
      have steady := steady_readWithin limit profile levels
      have passes : requireLiteral op ⟨right, right.depth⟩ = .ok ⟨right, right.depth⟩ :=
        requireLiteral_of_isLiteral op rightLiteral
      rw [arrived, readRest_of_lt _ steady remains binds,
        readMore_of_isComparison comparison writes.1 writes.2, if_pos leftLiteral]
      apply Arrives.binary fits
      · exact after.arrives_readWithin positive levels trivial rfl loose (power ▸ loose)
      · rw [passes]
        rfl

theorem connective
    (connective : op = .and ∨ op = .or) (writes : sign.Writes profile op)
    (before : Readable limit profile .expression leftTokens left leftNesting)
    (after : Readable limit profile .comparison rightTokens right rightNesting)
    (positive : 0 < rightNesting) :
    Readable limit profile .expression (leftTokens ++ sign :: rightTokens)
      (.binary op left right) (max leftNesting (1 + rightNesting)) := by
  intro levels threshold cursor rest within ahead follows
  have power : op.bindingPower = Operator.and.bindingPower := by
    rcases connective with rfl | rfl <;> rfl
  have signPower := Token.bindingPower_of_operator writes.1
  have binds : threshold < sign.bindingPower := by
    rw [signPower, power]
    exact within
  have split : cursor.rest = leftTokens ++ sign :: (rightTokens ++ rest) := by
    simpa using ahead
  have signFollows : Token.Closes Phrase.expression.follow (sign :: (rightTokens ++ rest)) := by
    simp [signPower, power, Phrase.follow]
  -- The right side is a comparison, because `and` and `or` group to the left.
  have rightWithin : Phrase.comparison.Within op.bindingPower := by
    unfold Phrase.Within
    rw [power]
    decide
  cases before levels threshold cursor _ within split signFollows with
  | tooDeep offset stop exceeds arrived =>
      refine .tooDeep offset stop ?_ arrived
      simp only [Expr.depth]
      omega
  | reached middle fits shallow remains arrived =>
      have steady := steady_readWithin limit profile levels
      rw [arrived, readRest_of_lt _ steady remains binds,
        readMore_of_connective connective writes.1 writes.2]
      apply Arrives.binary fits
      · exact after.arrives_readWithin positive levels rightWithin rfl follows (power ▸ follows)
      · rfl

end Infix

end Readable

theorem readable_of_derives
    {limit : Nat} (positive : 0 < limit) {profile : Profile} {phrase : Phrase}
    {tokens : List Token} {expr : Expr} {nesting : Nat}
    (derivation : Derives profile phrase tokens expr nesting) :
    Readable limit profile phrase tokens expr nesting := by
  induction derivation with
  | literal kind =>
      exact .literal positive kind
  | operandGroup opening closing inner inductionHypothesis =>
      exact .group opening closing inductionHypothesis inner.nesting_pos trivial
  | ofOperand _ inductionHypothesis =>
      exact inductionHypothesis
  | negation sign inner inductionHypothesis =>
      exact .negation sign inductionHypothesis inner.nesting_pos
  | containment containment sign inner inductionHypothesis =>
      exact .containment containment sign inductionHypothesis inner.nesting_pos
        inner.isLiteral_of_operand
  | group opening closing inner inductionHypothesis =>
      exact .group opening closing inductionHypothesis inner.nesting_pos
        (by simp [Phrase.Within, Operator.bindingPower])
  | ofPrimary _ inductionHypothesis =>
      intro levels threshold cursor rest _ ahead follows
      exact inductionHypothesis levels threshold cursor rest trivial ahead
        (follows.mono (by decide))
  | comparison comparison sign left right leftHypothesis rightHypothesis =>
      exact .comparison comparison sign leftHypothesis left.isLiteral_of_operand rightHypothesis
        right.isLiteral_of_operand right.nesting_pos
  | ofComparison _ inductionHypothesis =>
      intro levels threshold cursor rest within ahead follows
      exact inductionHypothesis levels threshold cursor rest
        (Nat.lt_trans within (by decide)) ahead follows
  | connective connective sign left right leftHypothesis rightHypothesis =>
      exact .connective connective sign leftHypothesis rightHypothesis right.nesting_pos

end Expr

end CatalogFilter
