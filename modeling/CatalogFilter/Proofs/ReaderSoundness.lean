import CatalogFilter.Proofs.Grammar
import CatalogFilter.Proofs.ReaderProgress

/-!
# What a successful reading has read

An expression that was read above a threshold comes from a phrase: a primary above the thresholds
of the tight operators, a comparison above the one of `and` and `or`, an expression above 0. The
phrase is what the reading took from the front, and it stays within the levels and the limit of
the reading.
-/

namespace CatalogFilter

/-- The widest phrase whose operators all bind more tightly than `threshold`. -/
def Phrase.above (threshold : Nat) : Phrase :=
  if threshold < Operator.and.bindingPower then
    .expression
  else if threshold < Operator.eq.bindingPower then
    .comparison
  else
    .primary

namespace Derives

variable {profile : Profile} {tokens : List Token} {expr : Expr} {nesting threshold : Nat}

theorem above_of_comparison
    (derivation : Derives profile .comparison tokens expr nesting)
    (binds : threshold < Operator.eq.bindingPower) :
    Derives profile (.above threshold) tokens expr nesting := by
  rw [Phrase.above, if_pos binds]
  split
  · exact .ofComparison derivation
  · exact derivation

theorem above_of_primary
    (derivation : Derives profile .primary tokens expr nesting) :
    Derives profile (.above threshold) tokens expr nesting := by
  by_cases binds : threshold < Operator.eq.bindingPower
  · apply above_of_comparison _ binds
    exact .ofPrimary derivation
  · have loose : ¬ threshold < Operator.and.bindingPower := by
      simp only [Operator.bindingPower] at binds ⊢
      omega
    rw [Phrase.above, if_neg loose, if_neg binds]
    exact derivation

end Derives

namespace Expr

/-- The tokens from `ahead` to `rest` are a phrase that denotes the result, within
bounds. -/
def Spans (limit : Nat) (profile : Profile) (levels : Nat) (phrase : Phrase)
    (ahead : List Token) (result : Measured) (rest : List Token) : Prop :=
  ∃ tokens nesting,
    ahead = tokens ++ rest ∧
      Derives profile phrase tokens result.expr nesting ∧
      nesting ≤ levels ∧
      result.depth = result.expr.depth ∧
      result.expr.depth ≤ limit

/-- Every success of `read` has read a phrase. -/
def Sound (limit : Nat) (profile : Profile) (levels : Nat)
    (read : Nat → Cursor → Reading Measured) : Prop :=
  ∀ (threshold : Nat) (cursor after : Cursor) (result : Measured),
    read threshold cursor = (.ok result, after) →
      Spans limit profile levels (.above threshold) cursor.rest result after.rest

/-! ## Nodes -/

theorem unaryNode_eq
    (limit : Nat) (op : Operator) (offset : Nat) (operand : Measured) :
    unaryNode limit op offset operand =
      if operand.depth < limit then
        .ok ⟨.unary op operand.expr, operand.depth + 1⟩
      else
        .error (.tooDeep offset) := by
  rw [unaryNode, deepen]
  by_cases shallow : operand.depth < limit
  · rw [if_pos shallow, if_neg (Nat.not_le.2 shallow)]
    rfl
  · rw [if_neg shallow, if_pos (Nat.not_lt.1 shallow)]
    rfl

theorem binaryNode_eq
    (limit : Nat) (op : Operator) (offset : Nat) (left right : Measured) :
    binaryNode limit op offset left right =
      if max left.depth right.depth < limit then
        .ok ⟨.binary op left.expr right.expr, max left.depth right.depth + 1⟩
      else
        .error (.tooDeep offset) := by
  rw [binaryNode, deepen]
  by_cases shallow : max left.depth right.depth < limit
  · rw [if_pos shallow, if_neg (Nat.not_le.2 shallow)]
    rfl
  · rw [if_neg shallow, if_pos (Nat.not_lt.1 shallow)]
    rfl

theorem requireLiteral_of_isLiteral
    {operand : Measured} (op : Operator)
    (literal : operand.expr.isLiteral = true) :
    requireLiteral op operand = .ok operand := by
  simp [requireLiteral, literal]

theorem requireLiteral_bind_eq_ok_iff
    {op : Operator} {operand result : Measured}
    {next : Measured → Except ParseError Measured} :
    (requireLiteral op operand >>= next) = .ok result ↔
      operand.expr.isLiteral = true ∧ next operand = .ok result := by
  rw [requireLiteral]
  split
  · rename_i literal
    simp only [literal, true_and]
    rfl
  · rename_i literal
    simp only [literal, Bool.false_eq_true, false_and, iff_false]
    rintro ⟨⟩

/-! ## Phrases put together -/

namespace Spans

variable {limit levels : Nat} {profile : Profile} {ahead middle rest : List Token}
variable {token : Token} {op : Operator} {offset : Nat}

theorem above
    {result : Measured} (threshold : Nat)
    (spans : Spans limit profile levels .primary ahead result rest) :
    Spans limit profile levels (.above threshold) ahead result rest := by
  obtain ⟨tokens, nesting, split, derivation, bounds⟩ := spans
  exact ⟨tokens, nesting, split, derivation.above_of_primary, bounds⟩

theorem operand
    {phrase : Phrase} {result : Measured}
    (spans : Spans limit profile levels phrase ahead result rest)
    (literal : result.expr.isLiteral = true) :
    Spans limit profile levels .operand ahead result rest := by
  obtain ⟨tokens, nesting, split, derivation, bounds⟩ := spans
  exact ⟨tokens, nesting, split, derivation.operand_of_isLiteral literal, bounds⟩

theorem unary
    {phrase : Phrase} {operand result : Measured}
    (made : unaryNode limit op offset operand = .ok result)
    (inner : Spans limit profile levels phrase ahead operand rest)
    (rule : ∀ {tokens : List Token} {nesting : Nat},
      Derives profile phrase tokens operand.expr nesting →
        Derives profile .primary (token :: tokens) (.unary op operand.expr)
          (nesting + 1)) :
    Spans limit profile (levels + 1) .primary (token :: ahead) result rest := by
  obtain ⟨tokens, nesting, split, derivation, within, depth, shallow⟩ := inner
  rw [unaryNode_eq] at made
  by_cases room : operand.depth < limit
  · rw [if_pos room] at made
    cases made
    have whole : token :: ahead = (token :: tokens) ++ rest := by
      rw [split]
      rfl
    refine ⟨token :: tokens, nesting + 1, whole, rule derivation, by omega, ?_, ?_⟩
    · simp only [Expr.depth]
      omega
    · simp only [Expr.depth]
      omega
  · rw [if_neg room] at made
    cases made

theorem binary
    {leftPhrase rightPhrase phrase : Phrase} {left right result : Measured}
    (made : binaryNode limit op offset left right = .ok result)
    (before : Spans limit profile (levels + 1) leftPhrase ahead left (token :: middle))
    (after : Spans limit profile levels rightPhrase middle right rest)
    (rule : ∀ {leftTokens rightTokens : List Token} {leftNesting rightNesting : Nat},
      Derives profile leftPhrase leftTokens left.expr leftNesting →
        Derives profile rightPhrase rightTokens right.expr rightNesting →
          Derives profile phrase (leftTokens ++ token :: rightTokens)
            (.binary op left.expr right.expr)
            (max leftNesting (1 + rightNesting))) :
    Spans limit profile (levels + 1) phrase ahead result rest := by
  obtain ⟨leftTokens, leftNesting, leftSplit, leftDerivation, leftWithin, leftDepth, _⟩ :=
    before
  obtain ⟨rightTokens, rightNesting, rightSplit, rightDerivation, rightWithin,
    rightDepth, _⟩ := after
  rw [binaryNode_eq] at made
  by_cases room : max left.depth right.depth < limit
  · rw [if_pos room] at made
    cases made
    have whole : ahead = (leftTokens ++ token :: rightTokens) ++ rest := by
      simp [leftSplit, rightSplit]
    refine ⟨leftTokens ++ token :: rightTokens, max leftNesting (1 + rightNesting),
      whole, rule leftDerivation rightDerivation, by omega, ?_, ?_⟩
    · simp only [Expr.depth]
      omega
    · simp only [Expr.depth]
      omega
  · rw [if_neg room] at made
    cases made

end Spans

/-! ## The steps -/

section Steps

variable {limit levels threshold : Nat} {profile : Profile}
variable {read : Nat → Cursor → Reading Measured}

theorem closeGroup_eq_ok_iff
    {offset : Nat} {inner result : Measured} {cursor after : Cursor} :
    closeGroup offset inner cursor = (.ok result, after) ↔
      inner = result ∧
        ∃ closing rest,
          closing.kind = .operator .closeParen ∧
            cursor.rest = closing :: rest ∧
            after = { cursor with rest } := by
  rw [closeGroup]
  split
  · rename_i text place rest ahead
    constructor
    · intro closed
      cases closed
      exact ⟨rfl, _, rest, rfl, ahead, rfl⟩
    · rintro ⟨rfl, closing, others, -, same, rfl⟩
      rw [ahead] at same
      cases same
      rfl
  · rename_i different
    constructor
    · intro closed
      cases closed
    · rintro ⟨-, ⟨kind, text, place⟩, rest, closes, ahead, -⟩
      cases closes
      exact absurd ahead (different text place rest)

theorem andThen_answer_eq_ok_iff
    {reading : Reading Measured} {answer : Measured → Except ParseError Measured}
    {result : Measured} {after : Cursor} :
    (reading.andThen fun operand cursor => (answer operand, cursor)) =
        (.ok result, after) ↔
      ∃ operand, reading = (.ok operand, after) ∧ answer operand = .ok result := by
  rw [Reading.andThen_eq_ok_iff]
  constructor
  · rintro ⟨operand, cursor, finished, answered⟩
    obtain ⟨made, rfl⟩ := Prod.mk.inj answered
    exact ⟨operand, finished, made⟩
  · rintro ⟨operand, finished, made⟩
    exact ⟨operand, after, finished, by rw [made]⟩

theorem spans_of_group
    (sound : Sound limit profile levels read)
    {token : Token} {cursor after : Cursor} {result : Measured}
    (sign : token.Writes profile .openParen)
    (started :
      (read threshold cursor).andThen (closeGroup token.offset) = (.ok result, after))
    (loose : Phrase.above threshold = .expression) :
    Spans limit profile (levels + 1) .primary (token :: cursor.rest) result after.rest := by
  obtain ⟨inner, place, finished, closed⟩ := Reading.andThen_eq_ok_iff.1 started
  obtain ⟨tokens, nesting, split, derivation, within, bounds⟩ := sound _ _ _ _ finished
  obtain ⟨rfl, closing, rest, closes, ahead, rfl⟩ := closeGroup_eq_ok_iff.1 closed
  rw [loose] at derivation
  have closeSign : closing.Writes profile .closeParen := by
    refine ⟨closes, ?_⟩
    cases profile <;> rfl
  have whole : token :: cursor.rest = (token :: (tokens ++ [closing])) ++ rest := by
    simp [split, ahead]
  exact ⟨token :: (tokens ++ [closing]), nesting + 1, whole,
    .group sign closeSign derivation, by omega, bounds⟩

theorem spans_of_readStart
    (sound : Sound limit profile levels read) (positive : 0 < limit)
    {token : Token} {cursor after : Cursor} {result : Measured}
    (started : readStart limit profile read token cursor = (.ok result, after)) :
    Spans limit profile (levels + 1) .primary (token :: cursor.rest) result after.rest := by
  rw [readStart] at started
  split at started
  · rename_i kind
    cases started
    have derivation : Derives profile .primary [token] (.literal token.text) 1 :=
      .ofOperand (.literal kind)
    exact ⟨[token], 1, rfl, derivation, by omega, rfl, positive⟩
  · cases started
  · rename_i op kind
    split at started
    · rename_i supported
      have sign : token.Writes profile op := ⟨kind, supported⟩
      split at started
      case h_1 =>
        obtain ⟨operand, finished, made⟩ := andThen_answer_eq_ok_iff.1 started
        have inner := sound _ _ _ _ finished
        exact .unary made inner (.negation sign)
      case h_2 | h_3 =>
        obtain ⟨operand, finished, checked⟩ := andThen_answer_eq_ok_iff.1 started
        obtain ⟨literal, made⟩ := requireLiteral_bind_eq_ok_iff.1 checked
        have inner := (sound _ _ _ _ finished).operand literal
        exact .unary made inner (.containment (by simp) sign)
      case h_4 =>
        exact spans_of_group sound sign started rfl
      case h_5 =>
        cases started
    · cases started

section More

variable {token : Token} {op : Operator} {ahead : List Token} {left result : Measured}
variable {cursor after : Cursor}

theorem spans_of_connective
    (sound : Sound limit profile levels read)
    (connective : op = .and ∨ op = .or) (sign : token.Writes profile op)
    (binds : threshold < op.bindingPower)
    (before :
      Spans limit profile (levels + 1) (.above threshold) ahead left (token :: cursor.rest))
    (grown : readMore limit profile read token left cursor = (.ok result, after)) :
    Spans limit profile (levels + 1) (.above threshold) ahead result after.rest := by
  rw [readMore_of_connective connective sign.1 sign.2] at grown
  obtain ⟨right, finished, made⟩ := andThen_answer_eq_ok_iff.1 grown
  have power : op.bindingPower = Operator.and.bindingPower := by
    rcases connective with rfl | rfl <;> rfl
  have behind : Spans limit profile levels .comparison cursor.rest right after.rest := by
    have spans := sound _ _ _ _ finished
    rw [power] at spans
    exact spans
  rw [power] at binds
  rw [Phrase.above, if_pos binds] at before ⊢
  exact .binary made before behind (.connective connective sign)

theorem spans_of_comparison
    (sound : Sound limit profile levels read)
    (comparison : op.isComparison = true) (sign : token.Writes profile op)
    (binds : threshold < op.bindingPower)
    (before :
      Spans limit profile (levels + 1) (.above threshold) ahead left (token :: cursor.rest))
    (grown : readMore limit profile read token left cursor = (.ok result, after)) :
    Spans limit profile (levels + 1) (.above threshold) ahead result after.rest := by
  have power : op.bindingPower = Operator.eq.bindingPower := by
    cases op <;> first | rfl | cases comparison
  rw [power] at binds
  rw [readMore_of_isComparison comparison sign.1 sign.2] at grown
  by_cases leftLiteral : left.expr.isLiteral = true
  · rw [if_pos leftLiteral] at grown
    obtain ⟨right, finished, checked⟩ := andThen_answer_eq_ok_iff.1 grown
    obtain ⟨rightLiteral, made⟩ := requireLiteral_bind_eq_ok_iff.1 checked
    have front := before.operand leftLiteral
    have behind := (sound _ _ _ _ finished).operand rightLiteral
    apply Spans.binary made front behind
    intro leftTokens rightTokens leftNesting rightNesting leftSide rightSide
    have derivation := Derives.comparison comparison sign leftSide rightSide
    exact derivation.above_of_comparison binds
  · rw [if_neg leftLiteral] at grown
    cases grown

/-- What `token` makes of a phrase is a phrase of the same kind. -/
theorem spans_of_readMore
    (sound : Sound limit profile levels read)
    (binds : threshold < token.bindingPower)
    (before :
      Spans limit profile (levels + 1) (.above threshold) ahead left (token :: cursor.rest))
    (grown : readMore limit profile read token left cursor = (.ok result, after)) :
    Spans limit profile (levels + 1) (.above threshold) ahead result after.rest := by
  obtain ⟨op, kind⟩ := Token.exists_operator_of_bindingPower binds
  rw [Token.bindingPower_of_operator kind] at binds
  by_cases supported : profile.supports op = true
  · have sign : token.Writes profile op := ⟨kind, supported⟩
    by_cases connective : op = .and ∨ op = .or
    · exact spans_of_connective sound connective sign binds before grown
    · by_cases comparison : op.isComparison = true
      · exact spans_of_comparison sound comparison sign binds before grown
      · -- No other operator continues an expression.
        rw [readMore_of_unexpected connective comparison kind supported] at grown
        cases grown
  · rw [readMore_of_not_supports kind supported] at grown
    cases grown

end More

/-- Reading on keeps the kind of the phrase that was read before it. -/
theorem spans_of_readOn
    (sound : Sound limit profile levels read) {ahead : List Token} :
    ∀ {steps : Nat} {left result : Measured} {cursor after : Cursor},
      Spans limit profile (levels + 1) (.above threshold) ahead left cursor.rest →
        readOn limit profile read threshold steps left cursor = (.ok result, after) →
          Spans limit profile (levels + 1) (.above threshold) ahead result after.rest
  | 0, left, result, cursor, after, before, finished => by
      cases finished
      exact before
  | steps + 1, left, result, cursor, after, before, continued => by
      rw [readOn] at continued
      split at continued
      · cases continued
        exact before
      · rename_i token rest front
        split at continued
        · rename_i binds
          obtain ⟨grown, between, more, others⟩ :=
            Reading.andThen_eq_ok_iff.1 continued
          rw [front] at before
          have longer := spans_of_readMore sound binds before more
          exact spans_of_readOn sound longer others
        · cases continued
          exact before

theorem spans_of_readAbove
    (sound : Sound limit profile levels read) (positive : 0 < limit)
    {cursor after : Cursor} {result : Measured}
    (finished : readAbove limit profile read threshold cursor = (.ok result, after)) :
    Spans limit profile (levels + 1) (.above threshold) cursor.rest result after.rest := by
  rw [readAbove] at finished
  split at finished
  · cases finished
  · rename_i token rest ahead
    obtain ⟨left, between, started, others⟩ := Reading.andThen_eq_ok_iff.1 finished
    have begins := spans_of_readStart sound positive started
    rw [ahead]
    exact spans_of_readOn sound (begins.above threshold) others

end Steps

theorem sound_readWithin {limit : Nat} (positive : 0 < limit) (profile : Profile) :
    ∀ levels : Nat, Sound limit profile levels (readWithin limit profile levels)
  | 0, _, _, _, _, finished => by
      cases finished
  | levels + 1, threshold, cursor, after, result, finished => by
      have sound := sound_readWithin positive profile levels
      rw [readWithin] at finished
      generalize same :
        readAbove limit profile (readWithin limit profile levels) threshold cursor.enter =
          reading at finished
      obtain ⟨answer, place⟩ := reading
      obtain ⟨rfl, rfl⟩ := Prod.mk.inj finished
      -- Going in and out leaves the tokens ahead as they are.
      have spans := spans_of_readAbove sound positive same
      exact spans

end Expr

end CatalogFilter
