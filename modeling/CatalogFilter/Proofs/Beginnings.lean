import CatalogFilter.Expr.ParseError
import CatalogFilter.Proofs.Grammar

/-!
# Beginnings of phrases

Tokens at the front of a phrase are a phrase of the same kind themselves, or they break it off.
Where they break it off, two things can be missing: the last token wants more after it, or a group
is still open. Both can be read off the tokens without the grammar.
-/

namespace CatalogFilter

namespace Operator

/-- The two operators that open and close groups. -/
def isParenthesis : Operator → Bool
  | .openParen | .closeParen => true
  | _ => false

theorem isParenthesis_of_containment
    {op : Operator} (containment : op = .has ∨ op = .lacks) :
    op.isParenthesis = false := by
  rcases containment with rfl | rfl <;> rfl

theorem isParenthesis_of_connective
    {op : Operator} (connective : op = .and ∨ op = .or) :
    op.isParenthesis = false := by
  rcases connective with rfl | rfl <;> rfl

theorem isParenthesis_of_isComparison
    {op : Operator} (comparison : op.isComparison = true) :
    op.isParenthesis = false := by
  cases op <;> first | rfl | cases comparison

theorem ne_closeParen_of_isParenthesis
    {op : Operator} (plain : op.isParenthesis = false) :
    op ≠ .closeParen := by
  rintro rfl
  cases plain

end Operator

namespace Token

/-- Nothing has come yet, or what came last is an operator that has to be followed by something. -/
def WantsMore (tokens : List Token) : Prop :=
  ∀ last ∈ tokens.getLast?, ∃ op, last.kind = .operator op ∧ op ≠ .closeParen

/-- The opening parentheses that tokens leave open, the last one first; `groups` are open before. -/
def openGroups (groups : List Token) : List Token → List Token
  | [] => groups
  | token :: rest =>
      match token.kind with
      | .operator .openParen => openGroups (token :: groups) rest
      | .operator .closeParen => openGroups groups.tail rest
      | _ => openGroups groups rest

/-- What is missing where tokens break off. -/
inductive BreaksOff (tokens : List Token) : ParseError → Prop
  | wantsMore :
      WantsMore tokens →
      BreaksOff tokens .unexpectedEnd
  | openGroup {opening : Token} {others : List Token} :
      ¬ WantsMore tokens →
      openGroups [] tokens = opening :: others →
      BreaksOff tokens (.unmatchedParen opening.offset)

theorem wantsMore_nil : WantsMore [] := by
  intro last member
  cases member

/-- What comes before tokens does not matter to whether they want more, after an operator. -/
theorem wantsMore_append_cons_iff
    (before : List Token) {tokens : List Token} {sign : Token} {op : Operator}
    (kind : sign.kind = .operator op) (opens : op ≠ .closeParen) :
    WantsMore (before ++ sign :: tokens) ↔ WantsMore tokens := by
  cases tokens with
  | nil =>
      have signWants : WantsMore (before ++ [sign]) := by
        intro last member
        rw [List.getLast?_concat, Option.mem_some_iff] at member
        exact ⟨op, member ▸ kind, opens⟩
      exact iff_of_true signWants wantsMore_nil
  | cons first others =>
      have sameLast :
          (before ++ sign :: first :: others).getLast? = (first :: others).getLast? := by
        rw [List.getLast?_append, List.getLast?_cons_cons, List.getLast?_cons]
        rfl
      rw [WantsMore, WantsMore, sameLast]

theorem openGroups_append (groups before after : List Token) :
    openGroups groups (before ++ after) = openGroups (openGroups groups before) after := by
  induction before generalizing groups with
  | nil =>
      rfl
  | cons token rest inductionHypothesis =>
      rw [List.cons_append, openGroups, openGroups]
      split
      · exact inductionHypothesis _
      · exact inductionHypothesis _
      · exact inductionHypothesis _

theorem openGroups_cons_open
    {opening : Token} (kind : opening.kind = .operator .openParen)
    (groups rest : List Token) :
    openGroups groups (opening :: rest) = openGroups (opening :: groups) rest := by
  simp [openGroups, kind]

theorem openGroups_cons_close
    {closing : Token} (kind : closing.kind = .operator .closeParen)
    (groups rest : List Token) :
    openGroups groups (closing :: rest) = openGroups groups.tail rest := by
  simp [openGroups, kind]

theorem openGroups_cons_of_plain
    {sign : Token} {op : Operator} (kind : sign.kind = .operator op)
    (plain : op.isParenthesis = false) (groups rest : List Token) :
    openGroups groups (sign :: rest) = openGroups groups rest := by
  cases op with
  | openParen | closeParen =>
      cases plain
  | _ =>
      simp [openGroups, kind]

theorem BreaksOff.after
    (before : List Token) {tokens : List Token} {sign : Token} {op : Operator} {error : ParseError}
    (breaksOff : BreaksOff tokens error)
    (stacked : ∀ groups, openGroups groups tokens = openGroups [] tokens ++ groups)
    (kind : sign.kind = .operator op) (opens : op ≠ .closeParen) :
    BreaksOff (before ++ sign :: tokens) error := by
  have sameWish : WantsMore (before ++ sign :: tokens) ↔ WantsMore tokens :=
    wantsMore_append_cons_iff before kind opens
  cases breaksOff with
  | wantsMore wants =>
      exact .wantsMore (sameWish.2 wants)
  | @openGroup opening others satisfied unclosed =>
      have split : before ++ sign :: tokens = (before ++ [sign]) ++ tokens := by
        simp
      have stillOpen :
          openGroups [] (before ++ sign :: tokens) =
            opening :: (others ++ openGroups [] (before ++ [sign])) := by
        rw [split, openGroups_append, stacked, unclosed, List.cons_append]
      exact .openGroup (mt sameWish.1 satisfied) stillOpen

end Token

namespace Derives

variable {profile : Profile} {phrase : Phrase} {tokens : List Token}
variable {expr : Expr} {nesting : Nat}

theorem openGroups_eq
    (derivation : Derives profile phrase tokens expr nesting) (groups : List Token) :
    Token.openGroups groups tokens = groups := by
  induction derivation generalizing groups with
  | literal kind =>
      simp [Token.openGroups, kind]
  | operandGroup opening closing _ inductionHypothesis
  | group opening closing _ inductionHypothesis =>
      rw [Token.openGroups_cons_open opening.1, Token.openGroups_append, inductionHypothesis,
        Token.openGroups_cons_close closing.1]
      rfl
  | ofOperand _ inductionHypothesis
  | ofPrimary _ inductionHypothesis
  | ofComparison _ inductionHypothesis =>
      exact inductionHypothesis groups
  | negation sign _ inductionHypothesis =>
      rw [Token.openGroups_cons_of_plain sign.1 rfl, inductionHypothesis]
  | containment containment sign _ inductionHypothesis =>
      have plain := Operator.isParenthesis_of_containment containment
      rw [Token.openGroups_cons_of_plain sign.1 plain, inductionHypothesis]
  | comparison comparison sign _ _ leftHypothesis rightHypothesis =>
      have plain := Operator.isParenthesis_of_isComparison comparison
      rw [Token.openGroups_append, leftHypothesis, Token.openGroups_cons_of_plain sign.1 plain,
        rightHypothesis]
  | connective connective sign _ _ leftHypothesis rightHypothesis =>
      have plain := Operator.isParenthesis_of_connective connective
      rw [Token.openGroups_append, leftHypothesis, Token.openGroups_cons_of_plain sign.1 plain,
        rightHypothesis]

/-- A phrase wants nothing more: it ends in a literal or in a closing parenthesis. -/
theorem not_wantsMore
    (derivation : Derives profile phrase tokens expr nesting) :
    ¬ Token.WantsMore tokens := by
  induction derivation with
  | @literal token kind =>
      intro wants
      obtain ⟨op, operator, _⟩ := wants token rfl
      rw [kind] at operator
      cases operator
  | @operandGroup opening closing tokens _ _ _ closeSign _ _
  | @group opening closing tokens _ _ _ closeSign _ _ =>
      intro wants
      have last : (opening :: (tokens ++ [closing])).getLast? = some closing := by
        rw [← List.cons_append, List.getLast?_concat]
      obtain ⟨op, operator, opens⟩ := wants closing last
      rw [closeSign.1] at operator
      cases operator
      exact opens rfl
  | ofOperand _ inductionHypothesis
  | ofPrimary _ inductionHypothesis
  | ofComparison _ inductionHypothesis =>
      exact inductionHypothesis
  | @negation sign tokens _ _ writes _ inductionHypothesis =>
      exact mt (Token.wantsMore_append_cons_iff [] writes.1 nofun).1
        inductionHypothesis
  | containment containment writes _ inductionHypothesis =>
      have opens := Operator.ne_closeParen_of_isParenthesis
        (Operator.isParenthesis_of_containment containment)
      exact mt (Token.wantsMore_append_cons_iff [] writes.1 opens).1
        inductionHypothesis
  | comparison comparison writes _ _ _ rightHypothesis =>
      have opens := Operator.ne_closeParen_of_isParenthesis
        (Operator.isParenthesis_of_isComparison comparison)
      exact mt (Token.wantsMore_append_cons_iff _ writes.1 opens).1 rightHypothesis
  | connective connective writes _ _ _ rightHypothesis =>
      have opens := Operator.ne_closeParen_of_isParenthesis
        (Operator.isParenthesis_of_connective connective)
      exact mt (Token.wantsMore_append_cons_iff _ writes.1 opens).1 rightHypothesis

end Derives

/-! ## Beginnings of phrases -/

/-- Tokens that break off a phrase: what is finished before the break keeps to the limit on depth,
and what is open at the break nests to at most this many levels. -/
inductive BeginsPhrase (limit : Nat) (profile : Profile) :
    Nat → Phrase → List Token → Prop
  | nothing {phrase : Phrase} {levels : Nat} :
      0 < levels →
      BeginsPhrase limit profile levels phrase []
  | insideGroup {opening : Token} {tokens : List Token} {levels : Nat} :
      opening.Writes profile .openParen →
      BeginsPhrase limit profile levels .expression tokens →
      BeginsPhrase limit profile (levels + 1) .operand (opening :: tokens)
  | unclosedGroup
      {opening : Token} {tokens : List Token} {levels : Nat} {expr : Expr} {nesting : Nat} :
      opening.Writes profile .openParen →
      Derives profile .expression tokens expr nesting →
      expr.depth ≤ limit →
      nesting ≤ levels →
      BeginsPhrase limit profile (levels + 1) .operand (opening :: tokens)
  | ofOperand {tokens : List Token} {levels : Nat} :
      BeginsPhrase limit profile levels .operand tokens →
      BeginsPhrase limit profile levels .primary tokens
  | negation {sign : Token} {tokens : List Token} {levels : Nat} :
      sign.Writes profile .not →
      BeginsPhrase limit profile levels .primary tokens →
      BeginsPhrase limit profile (levels + 1) .primary (sign :: tokens)
  | containment {op : Operator} {sign : Token} {tokens : List Token} {levels : Nat} :
      op = .has ∨ op = .lacks →
      sign.Writes profile op →
      BeginsPhrase limit profile levels .operand tokens →
      BeginsPhrase limit profile (levels + 1) .primary (sign :: tokens)
  | ofPrimary {tokens : List Token} {levels : Nat} :
      BeginsPhrase limit profile levels .primary tokens →
      BeginsPhrase limit profile levels .comparison tokens
  | comparison
      {op : Operator} {sign : Token} {before after : List Token} {levels : Nat} {left : Expr}
      {nesting : Nat} :
      op.isComparison = true →
      sign.Writes profile op →
      Derives profile .operand before left nesting →
      left.depth ≤ limit →
      nesting ≤ levels + 1 →
      BeginsPhrase limit profile levels .operand after →
      BeginsPhrase limit profile (levels + 1) .comparison (before ++ sign :: after)
  | ofComparison {tokens : List Token} {levels : Nat} :
      BeginsPhrase limit profile levels .comparison tokens →
      BeginsPhrase limit profile levels .expression tokens
  | connective
      {op : Operator} {sign : Token} {before after : List Token} {levels : Nat} {left : Expr}
      {nesting : Nat} :
      op = .and ∨ op = .or →
      sign.Writes profile op →
      Derives profile .expression before left nesting →
      left.depth ≤ limit →
      nesting ≤ levels + 1 →
      BeginsPhrase limit profile levels .comparison after →
      BeginsPhrase limit profile (levels + 1) .expression (before ++ sign :: after)

/-- The tokens are a whole phrase that exceeds no bound that this depth and nesting keep. -/
def WholePhrase (profile : Profile) (phrase : Phrase) (tokens : List Token) (depth nesting : Nat) :
    Prop :=
  ∃ expr inner, Derives profile phrase tokens expr inner ∧ expr.depth ≤ depth ∧ inner ≤ nesting

section Beginnings

variable {limit levels : Nat} {profile : Profile} {phrase : Phrase}
variable {tokens whole : List Token} {expr : Expr} {nesting : Nat}

/-- A beginning of two parts with a token between them ends in the first part, or behind that
token. -/
theorem beginning_of_append_cons
    {before after tokens more : List Token} {sign : Token}
    (split : before ++ sign :: after = tokens ++ more) :
    (∃ rest, before = tokens ++ rest) ∨
      ∃ rest, tokens = before ++ sign :: rest ∧ after = rest ++ more := by
  rcases List.append_eq_append_iff.1 split with ⟨rest, longer, behind⟩ | ⟨rest, shorter, _⟩
  · rcases List.cons_eq_append_iff.1 behind with ⟨empty, _⟩ | ⟨others, rfl, remains⟩
    · rw [empty, List.append_nil] at longer
      exact .inl ⟨[], by rw [longer, List.append_nil]⟩
    · exact .inr ⟨others, longer, remains⟩
  · exact .inl ⟨rest, shorter⟩

/-- A beginning of a group is empty, ends inside the group or is all of it. -/
theorem beginning_of_group
    {inside tokens more : List Token} {opening closing : Token}
    (split : opening :: (inside ++ [closing]) = tokens ++ more) :
    tokens = [] ∨
      (∃ front rest, tokens = opening :: front ∧ inside = front ++ rest) ∨
      tokens = opening :: (inside ++ [closing]) := by
  rcases List.cons_eq_append_iff.1 split with ⟨empty, _⟩ | ⟨front, rfl, behind⟩
  · exact .inl empty
  · rcases beginning_of_append_cons behind with ⟨rest, inner⟩ | ⟨rest, rfl, remains⟩
    · exact .inr (.inl ⟨front, rest, rfl, inner⟩)
    · rw [(List.append_eq_nil_iff.1 remains.symm).1]
      exact .inr (.inr rfl)

namespace WholePhrase

variable {narrow wide : Phrase} {depth : Nat}

theorem mono
    {depth' nesting' : Nat} (wholePhrase : WholePhrase profile narrow tokens depth nesting)
    (rule : ∀ {expr : Expr} {inner : Nat},
      Derives profile narrow tokens expr inner → Derives profile wide tokens expr inner)
    (depthBound : depth ≤ depth') (nestingBound : nesting ≤ nesting') :
    WholePhrase profile wide tokens depth' nesting' := by
  obtain ⟨expr, inner, derivation, shallow, within⟩ := wholePhrase
  exact ⟨expr, inner, rule derivation, by omega, by omega⟩

theorem unary
    {op : Operator} {sign : Token} (wholePhrase : WholePhrase profile narrow tokens depth nesting)
    (rule : ∀ {expr : Expr} {inner : Nat},
      Derives profile narrow tokens expr inner →
        Derives profile wide (sign :: tokens) (.unary op expr) (inner + 1)) :
    WholePhrase profile wide (sign :: tokens) (1 + depth) (nesting + 1) := by
  obtain ⟨expr, inner, derivation, shallow, within⟩ := wholePhrase
  refine ⟨.unary op expr, inner + 1, rule derivation, ?_, by omega⟩
  simp only [Expr.depth]
  omega

theorem binary
    {op : Operator} {sign : Token} {before : List Token} {left : Expr} {leftNesting : Nat}
    (wholePhrase : WholePhrase profile narrow tokens depth nesting)
    (rule : ∀ {expr : Expr} {inner : Nat},
      Derives profile narrow tokens expr inner →
        Derives profile wide (before ++ sign :: tokens) (.binary op left expr)
          (max leftNesting (1 + inner))) :
    WholePhrase profile wide (before ++ sign :: tokens) (1 + max left.depth depth)
      (max leftNesting (1 + nesting)) := by
  obtain ⟨expr, inner, derivation, shallow, within⟩ := wholePhrase
  refine ⟨.binary op left expr, max leftNesting (1 + inner), rule derivation, ?_, by omega⟩
  simp only [Expr.depth]
  omega

end WholePhrase

theorem BeginsPhrase.group
    {opening : Token} (writes : opening.Writes profile .openParen) {depth : Nat}
    (shallow : depth ≤ limit) (within : nesting ≤ levels)
    (inner :
      BeginsPhrase limit profile levels .expression tokens ∨
        WholePhrase profile .expression tokens depth nesting) :
    BeginsPhrase limit profile (levels + 1) .operand (opening :: tokens) := by
  rcases inner with begins | ⟨expr, reached, derivation, depthBound, nestingBound⟩
  · exact .insideGroup writes begins
  · exact .unclosedGroup writes derivation (by omega) (by omega)

/-- A beginning of a phrase breaks it off or is a phrase of the same kind. -/
theorem Derives.beginning
    (derivation : Derives profile phrase whole expr nesting)
    (shallow : expr.depth ≤ limit) (within : nesting ≤ levels)
    {more : List Token} (split : whole = tokens ++ more) :
    BeginsPhrase limit profile levels phrase tokens ∨
      WholePhrase profile phrase tokens expr.depth nesting := by
  have positive := derivation.nesting_pos
  induction derivation generalizing levels tokens more with
  | @literal token kind =>
      rcases List.cons_eq_append_iff.1 split with ⟨rfl, _⟩ | ⟨rest, rfl, behind⟩
      · exact .inl (.nothing within)
      · rw [(List.append_eq_nil_iff.1 behind.symm).1]
        exact .inr ⟨_, _, .literal kind, Nat.le_refl _, Nat.le_refl _⟩
  | @operandGroup opening closing tokens expr inner writes closes operand inductionHypothesis =>
      obtain ⟨levels, rfl⟩ := Nat.exists_eq_succ_of_ne_zero (n := levels) (by omega)
      have innerWithin : inner ≤ levels := by omega
      rcases beginning_of_group split with rfl | ⟨front, rest, rfl, inside⟩ | rfl
      · exact .inl (.nothing (by omega))
      · have begins := inductionHypothesis shallow innerWithin inside operand.nesting_pos
        refine .inl (.group writes shallow innerWithin (begins.imp ?_ ?_))
        · intro operandBegins
          exact operandBegins.ofOperand.ofPrimary.ofComparison
        · intro operandWhole
          exact operandWhole.mono (fun found => found.ofOperand.expression_of_primary)
            (Nat.le_refl _) (Nat.le_refl _)
      · exact .inr ⟨_, _, .operandGroup writes closes operand, Nat.le_refl _, Nat.le_refl _⟩
  | ofOperand operand inductionHypothesis =>
      refine (inductionHypothesis shallow within split positive).imp .ofOperand ?_
      intro operandWhole
      exact operandWhole.mono .ofOperand (Nat.le_refl _) (Nat.le_refl _)
  | @negation sign tokens expr inner writes primary inductionHypothesis =>
      simp only [Expr.depth] at shallow ⊢
      obtain ⟨levels, rfl⟩ := Nat.exists_eq_succ_of_ne_zero (n := levels) (by omega)
      have innerWithin : inner ≤ levels := by omega
      rcases List.cons_eq_append_iff.1 split with ⟨rfl, _⟩ | ⟨front, rfl, behind⟩
      · exact .inl (.nothing (by omega))
      · have begins := inductionHypothesis (by omega) innerWithin behind primary.nesting_pos
        exact begins.imp (.negation writes) fun found => found.unary (.negation writes)
  | @containment op sign tokens expr inner containment writes operand inductionHypothesis =>
      simp only [Expr.depth] at shallow ⊢
      obtain ⟨levels, rfl⟩ := Nat.exists_eq_succ_of_ne_zero (n := levels) (by omega)
      have innerWithin : inner ≤ levels := by omega
      rcases List.cons_eq_append_iff.1 split with ⟨rfl, _⟩ | ⟨front, rfl, behind⟩
      · exact .inl (.nothing (by omega))
      · have begins := inductionHypothesis (by omega) innerWithin behind operand.nesting_pos
        exact begins.imp (.containment containment writes) fun found =>
          found.unary (.containment containment writes)
  | @group opening closing tokens expr inner writes closes expression inductionHypothesis =>
      obtain ⟨levels, rfl⟩ := Nat.exists_eq_succ_of_ne_zero (n := levels) (by omega)
      have innerWithin : inner ≤ levels := by omega
      rcases beginning_of_group split with rfl | ⟨front, rest, rfl, inside⟩ | rfl
      · exact .inl (.nothing (by omega))
      · have begins := inductionHypothesis shallow innerWithin inside expression.nesting_pos
        exact .inl (.ofOperand (.group writes shallow innerWithin begins))
      · exact .inr ⟨_, _, .group writes closes expression, Nat.le_refl _, Nat.le_refl _⟩
  | ofPrimary primary inductionHypothesis =>
      refine (inductionHypothesis shallow within split positive).imp .ofPrimary ?_
      intro primaryWhole
      exact primaryWhole.mono .ofPrimary (Nat.le_refl _) (Nat.le_refl _)
  | @comparison op sign before after left right leftNesting rightNesting comparison writes leftSide
      rightSide leftHypothesis rightHypothesis =>
      simp only [Expr.depth] at shallow ⊢
      obtain ⟨levels, rfl⟩ := Nat.exists_eq_succ_of_ne_zero (n := levels) (by omega)
      have leftWithin : leftNesting ≤ levels + 1 := by omega
      have rightWithin : rightNesting ≤ levels := by omega
      rcases beginning_of_append_cons split with ⟨rest, inLeft⟩ | ⟨rest, rfl, inRight⟩
      · have begins := leftHypothesis (by omega) leftWithin inLeft leftSide.nesting_pos
        refine begins.imp (fun found => found.ofOperand.ofPrimary) ?_
        intro operandWhole
        exact operandWhole.mono (fun found => found.ofOperand.ofPrimary) (by omega) (by omega)
      · have begins := rightHypothesis (by omega) rightWithin inRight rightSide.nesting_pos
        refine begins.imp ?_ fun found => found.binary (.comparison comparison writes leftSide)
        exact .comparison comparison writes leftSide (by omega) leftWithin
  | ofComparison comparison inductionHypothesis =>
      refine (inductionHypothesis shallow within split positive).imp .ofComparison ?_
      intro comparisonWhole
      exact comparisonWhole.mono .ofComparison (Nat.le_refl _) (Nat.le_refl _)
  | @connective op sign before after left right leftNesting rightNesting connective writes leftSide
      rightSide leftHypothesis rightHypothesis =>
      simp only [Expr.depth] at shallow ⊢
      obtain ⟨levels, rfl⟩ := Nat.exists_eq_succ_of_ne_zero (n := levels) (by omega)
      have leftWithin : leftNesting ≤ levels + 1 := by omega
      have rightWithin : rightNesting ≤ levels := by omega
      rcases beginning_of_append_cons split with ⟨rest, inLeft⟩ | ⟨rest, rfl, inRight⟩
      · have begins := leftHypothesis (by omega) leftWithin inLeft leftSide.nesting_pos
        exact begins.imp id fun found => found.mono id (by omega) (by omega)
      · have begins := rightHypothesis (by omega) rightWithin inRight rightSide.nesting_pos
        refine begins.imp ?_ fun found => found.binary (.connective connective writes leftSide)
        exact .connective connective writes leftSide (by omega) leftWithin

/-- A beginning of a phrase closes no group that it has not opened. -/
theorem BeginsPhrase.openGroups_eq
    (begins : BeginsPhrase limit profile levels phrase tokens) (groups : List Token) :
    Token.openGroups groups tokens = Token.openGroups [] tokens ++ groups := by
  induction begins generalizing groups with
  | nothing =>
      rfl
  | @insideGroup opening tokens _ writes _ inductionHypothesis =>
      rw [Token.openGroups_cons_open writes.1, Token.openGroups_cons_open writes.1,
        inductionHypothesis (opening :: groups), inductionHypothesis [opening]]
      simp
  | unclosedGroup writes derivation =>
      rw [Token.openGroups_cons_open writes.1, Token.openGroups_cons_open writes.1,
        derivation.openGroups_eq, derivation.openGroups_eq]
      rfl
  | ofOperand _ inductionHypothesis
  | ofPrimary _ inductionHypothesis
  | ofComparison _ inductionHypothesis =>
      exact inductionHypothesis groups
  | negation writes _ inductionHypothesis =>
      rw [Token.openGroups_cons_of_plain writes.1 rfl, Token.openGroups_cons_of_plain writes.1 rfl]
      exact inductionHypothesis groups
  | containment containment writes _ inductionHypothesis =>
      have plain := Operator.isParenthesis_of_containment containment
      rw [Token.openGroups_cons_of_plain writes.1 plain,
        Token.openGroups_cons_of_plain writes.1 plain]
      exact inductionHypothesis groups
  | comparison comparison writes left _ _ _ inductionHypothesis =>
      have plain := Operator.isParenthesis_of_isComparison comparison
      rw [Token.openGroups_append, Token.openGroups_append, left.openGroups_eq, left.openGroups_eq,
        Token.openGroups_cons_of_plain writes.1 plain,
        Token.openGroups_cons_of_plain writes.1 plain]
      exact inductionHypothesis groups
  | connective connective writes left _ _ _ inductionHypothesis =>
      have plain := Operator.isParenthesis_of_connective connective
      rw [Token.openGroups_append, Token.openGroups_append, left.openGroups_eq, left.openGroups_eq,
        Token.openGroups_cons_of_plain writes.1 plain,
        Token.openGroups_cons_of_plain writes.1 plain]
      exact inductionHypothesis groups

end Beginnings

end CatalogFilter
