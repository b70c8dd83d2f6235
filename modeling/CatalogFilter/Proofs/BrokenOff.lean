import CatalogFilter.Proofs.Acceptance
import CatalogFilter.Proofs.Beginnings
import CatalogFilter.Query

/-!
# Tokens that break off

A query that is typed from left to right is no query before its end. What the reader says of its
beginning depends on two things only: whether the last token wants more after it, and which groups
are still open. A beginning that wants nothing more and has no open group is a query already.

So of all complaints only two can go away when more tokens come: that the end came too early and
that a group is not closed.
-/

namespace CatalogFilter

namespace Expr

section Reading

variable {limit levels : Nat} {profile : Profile} {phrase : Phrase} {tokens : List Token}
variable {error : ParseError}

theorem fst_andThen_of_error
    {α β : Type} {reading : Reading α} {next : α → Cursor → Reading β}
    (failed : reading.1 = .error error) :
    (reading.andThen next).1 = .error error := by
  obtain ⟨answer, cursor⟩ := reading
  cases failed
  rfl

/-- Reading these tokens as such a phrase fails with the error, if the end comes behind them. -/
def FailsAtEnd (limit : Nat) (profile : Profile) (levels : Nat) (phrase : Phrase)
    (tokens : List Token) (error : ParseError) : Prop :=
  ∀ (threshold : Nat) (cursor : Cursor) (rest : List Token),
    phrase.Within threshold →
    cursor.rest = tokens ++ rest →
    (∀ token ∈ rest.head?, token.kind = .finish) →
    (readWithin limit profile levels threshold cursor).1 = .error error

/-- Where more has to come, the end comes too early. -/
theorem failsAtEnd_nil (positive : 0 < levels) :
    FailsAtEnd limit profile levels phrase [] .unexpectedEnd := by
  intro threshold cursor rest _ ahead finished
  obtain ⟨levels, rfl⟩ := Nat.exists_eq_succ_of_ne_zero (n := levels) (by omega)
  have inside : cursor.enter.rest = rest := ahead
  rw [← inside] at finished
  obtain ⟨after, ended⟩ := exists_readAbove_of_finished finished threshold
  rw [readWithin, ended]

/-- A start that fails makes the whole phrase fail. -/
theorem failsAtEnd_of_readStart
    {token : Token}
    (fails : ∀ (cursor : Cursor) (rest : List Token),
      cursor.rest = tokens ++ rest →
      (∀ token ∈ rest.head?, token.kind = .finish) →
      (readStart limit profile (readWithin limit profile levels) token cursor).1 = .error error) :
    FailsAtEnd limit profile (levels + 1) phrase (token :: tokens) error := by
  intro threshold cursor rest _ ahead finished
  have inside : cursor.enter.rest = token :: (tokens ++ rest) := ahead
  unfold readWithin
  rw [readAbove_eq_readRest inside]
  apply fst_andThen_of_error
  exact fails _ rest rfl finished

theorem failsAtEnd_insideGroup
    {opening : Token} (writes : opening.Writes profile .openParen)
    (inner : FailsAtEnd limit profile levels .expression tokens error) :
    FailsAtEnd limit profile (levels + 1) phrase (opening :: tokens) error := by
  apply failsAtEnd_of_readStart
  intro cursor rest ahead finished
  rw [readStart_of_openParen writes.1 writes.2]
  apply fst_andThen_of_error
  exact inner _ cursor rest (by simp [Phrase.Within, Operator.bindingPower]) ahead finished

theorem failsAtEnd_unclosedGroup
    {opening : Token} {expr : Expr} {nesting : Nat} (positive : 0 < limit)
    (writes : opening.Writes profile .openParen)
    (derivation : Derives profile .expression tokens expr nesting)
    (shallow : expr.depth ≤ limit) (within : nesting ≤ levels) :
    FailsAtEnd limit profile (levels + 1) phrase (opening :: tokens)
      (.unmatchedParen opening.offset) := by
  apply failsAtEnd_of_readStart
  intro cursor rest ahead finished
  rw [readStart_of_openParen writes.1 writes.2]
  have readable := readable_of_derives positive derivation
  have inside : Phrase.expression.Within Operator.openParen.bindingPower := by
    simp [Phrase.Within, Operator.bindingPower]
  have arrives := readable.arrives_readWithin derivation.nesting_pos levels inside ahead
    (Token.closes_of_finish _ finished) (Token.closes_of_finish _ finished)
  cases arrives with
  | tooDeep _ _ exceeds _ =>
      omega
  | reached after _ _ left arrived =>
      rw [← left] at finished
      rw [arrived, halt, Reading.andThen_ok, closeGroup_of_finished finished]

theorem failsAtEnd_negation
    {sign : Token} (writes : sign.Writes profile .not)
    (inner : FailsAtEnd limit profile levels .primary tokens error) :
    FailsAtEnd limit profile (levels + 1) phrase (sign :: tokens) error := by
  apply failsAtEnd_of_readStart
  intro cursor rest ahead finished
  rw [readStart_of_not writes.1 writes.2]
  apply fst_andThen_of_error
  exact inner _ cursor rest trivial ahead finished

theorem failsAtEnd_containment
    {op : Operator} {sign : Token} (containment : op = .has ∨ op = .lacks)
    (writes : sign.Writes profile op)
    (inner : FailsAtEnd limit profile levels .operand tokens error) :
    FailsAtEnd limit profile (levels + 1) phrase (sign :: tokens) error := by
  apply failsAtEnd_of_readStart
  intro cursor rest ahead finished
  rw [readStart_of_containment containment writes.1 writes.2]
  apply fst_andThen_of_error
  exact inner _ cursor rest trivial ahead finished

section Infix

variable {op : Operator} {sign : Token} {before : List Token} {left : Expr} {nesting : Nat}

/-- A sign that binds behind a finished phrase takes that phrase with it when it fails. -/
theorem failsAtEnd_of_readMore
    {front : Phrase} (positive : 0 < limit)
    (derivation : Derives profile front before left nesting)
    (shallow : left.depth ≤ limit) (within : nesting ≤ levels + 1)
    (inPhrase : ∀ {threshold : Nat}, phrase.Within threshold →
      front.Within threshold ∧ threshold < sign.bindingPower)
    (follows : sign.bindingPower ≤ front.follow)
    (fails : ∀ (cursor : Cursor) (rest : List Token),
      cursor.rest = tokens ++ rest →
      (∀ token ∈ rest.head?, token.kind = .finish) →
      (readMore limit profile (readWithin limit profile levels) sign ⟨left, left.depth⟩ cursor).1 =
        .error error) :
    FailsAtEnd limit profile (levels + 1) phrase (before ++ sign :: tokens) error := by
  intro threshold cursor rest allowed ahead finished
  obtain ⟨frontAllowed, binds⟩ := inPhrase allowed
  have split : cursor.enter.rest = before ++ sign :: (tokens ++ rest) := by
    rw [← List.cons_append, ← List.append_assoc]
    exact ahead
  have readable := readable_of_derives positive derivation
  unfold readWithin
  have closes : Token.Closes front.follow (sign :: (tokens ++ rest)) :=
    Token.closes_cons.2 follows
  cases readable levels threshold cursor.enter _ frontAllowed split closes with
  | tooDeep _ _ exceeds _ =>
      omega
  | reached after _ _ remains arrived =>
      rw [arrived, readRest_of_lt _ (steady_readWithin limit profile levels) remains binds]
      apply fst_andThen_of_error
      exact fails _ rest rfl finished

theorem failsAtEnd_comparison
    (positive : 0 < limit) (comparison : op.isComparison = true) (writes : sign.Writes profile op)
    (derivation : Derives profile .operand before left nesting)
    (shallow : left.depth ≤ limit) (within : nesting ≤ levels + 1)
    (inner : FailsAtEnd limit profile levels .operand tokens error) :
    FailsAtEnd limit profile (levels + 1) .comparison (before ++ sign :: tokens) error := by
  have power : sign.bindingPower = Operator.eq.bindingPower := by
    rw [Token.bindingPower_of_operator writes.1]
    cases op <;> first | rfl | cases comparison
  apply failsAtEnd_of_readMore positive derivation shallow within
  · intro threshold allowed
    exact ⟨trivial, power ▸ allowed⟩
  · rw [power]
    decide
  · intro cursor rest ahead finished
    rw [readMore_of_isComparison comparison writes.1 writes.2,
      if_pos derivation.isLiteral_of_operand]
    apply fst_andThen_of_error
    exact inner _ cursor rest trivial ahead finished

theorem failsAtEnd_connective
    (positive : 0 < limit) (connective : op = .and ∨ op = .or) (writes : sign.Writes profile op)
    (derivation : Derives profile .expression before left nesting)
    (shallow : left.depth ≤ limit) (within : nesting ≤ levels + 1)
    (inner : FailsAtEnd limit profile levels .comparison tokens error) :
    FailsAtEnd limit profile (levels + 1) .expression (before ++ sign :: tokens) error := by
  have opPower : op.bindingPower = Operator.and.bindingPower := by
    rcases connective with rfl | rfl <;> rfl
  have power : sign.bindingPower = Operator.and.bindingPower := by
    rw [Token.bindingPower_of_operator writes.1, opPower]
  apply failsAtEnd_of_readMore positive derivation shallow within
  · intro threshold allowed
    exact ⟨allowed, power ▸ allowed⟩
  · rw [power]
    decide
  · intro cursor rest ahead finished
    have rightAllowed : Phrase.comparison.Within op.bindingPower := by
      rw [opPower, Phrase.Within]
      decide
    rw [readMore_of_connective connective writes.1 writes.2]
    apply fst_andThen_of_error
    exact inner _ cursor rest rightAllowed ahead finished

end Infix

/-- Reading a phrase that breaks off fails for what is missing at the break. -/
theorem exists_failsAtEnd
    (positive : 0 < limit) (begins : BeginsPhrase limit profile levels phrase tokens) :
    ∃ error,
      Token.BreaksOff tokens error ∧ FailsAtEnd limit profile levels phrase tokens error := by
  induction begins with
  | nothing available =>
      exact ⟨_, .wantsMore Token.wantsMore_nil, failsAtEnd_nil available⟩
  | insideGroup writes begins inductionHypothesis =>
      obtain ⟨error, breaksOff, fails⟩ := inductionHypothesis
      refine ⟨error, ?_, failsAtEnd_insideGroup writes fails⟩
      exact breaksOff.after [] begins.openGroups_eq writes.1 nofun
  | @unclosedGroup opening tokens levels expr nesting writes derivation shallow within =>
      refine ⟨_, ?_, failsAtEnd_unclosedGroup positive writes derivation shallow within⟩
      have satisfied : ¬ Token.WantsMore (opening :: tokens) :=
        mt (Token.wantsMore_append_cons_iff [] writes.1 nofun).1
          derivation.not_wantsMore
      have unclosed : Token.openGroups [] (opening :: tokens) = [opening] := by
        rw [Token.openGroups_cons_open writes.1, derivation.openGroups_eq]
      exact .openGroup satisfied unclosed
  | ofOperand _ inductionHypothesis =>
      obtain ⟨error, breaksOff, fails⟩ := inductionHypothesis
      refine ⟨error, breaksOff, ?_⟩
      intro threshold cursor rest _
      exact fails threshold cursor rest trivial
  | negation writes begins inductionHypothesis =>
      obtain ⟨error, breaksOff, fails⟩ := inductionHypothesis
      refine ⟨error, ?_, failsAtEnd_negation writes fails⟩
      exact breaksOff.after [] begins.openGroups_eq writes.1 nofun
  | containment containment writes begins inductionHypothesis =>
      obtain ⟨error, breaksOff, fails⟩ := inductionHypothesis
      refine ⟨error, ?_, failsAtEnd_containment containment writes fails⟩
      have opens := Operator.ne_closeParen_of_isParenthesis
        (Operator.isParenthesis_of_containment containment)
      exact breaksOff.after [] begins.openGroups_eq writes.1 opens
  | ofPrimary _ inductionHypothesis =>
      obtain ⟨error, breaksOff, fails⟩ := inductionHypothesis
      refine ⟨error, breaksOff, ?_⟩
      intro threshold cursor rest _
      exact fails threshold cursor rest trivial
  | comparison comparison writes left shallow within begins inductionHypothesis =>
      obtain ⟨error, breaksOff, fails⟩ := inductionHypothesis
      refine ⟨error, ?_,
        failsAtEnd_comparison positive comparison writes left shallow within fails⟩
      have opens := Operator.ne_closeParen_of_isParenthesis
        (Operator.isParenthesis_of_isComparison comparison)
      exact breaksOff.after _ begins.openGroups_eq writes.1 opens
  | ofComparison _ inductionHypothesis =>
      obtain ⟨error, breaksOff, fails⟩ := inductionHypothesis
      refine ⟨error, breaksOff, ?_⟩
      intro threshold cursor rest allowed
      exact fails threshold cursor rest (Nat.lt_trans allowed (by decide))
  | connective connective writes left shallow within begins inductionHypothesis =>
      obtain ⟨error, breaksOff, fails⟩ := inductionHypothesis
      refine ⟨error, ?_,
        failsAtEnd_connective positive connective writes left shallow within fails⟩
      have opens := Operator.ne_closeParen_of_isParenthesis
        (Operator.isParenthesis_of_connective connective)
      exact breaksOff.after _ begins.openGroups_eq writes.1 opens

end Reading

/-! ## Beginnings of queries -/

variable {profile : Profile} {tokens more : List Token} {expr : Expr} {finish : Token}

/-- The beginning of a query is a query, or the reader says what is missing. -/
theorem ofTokens_of_beginning
    {nesting : Nat} (derivation : Derives profile .expression (tokens ++ more) expr nesting)
    (shallow : expr.depth ≤ maxDepth) (within : nesting ≤ maxDepth)
    (finished : finish.kind = .finish) :
    (∃ error,
      Token.BreaksOff tokens error ∧ ofTokens profile (tokens ++ [finish]) = .error error) ∨
    (¬ Token.WantsMore tokens ∧ Token.openGroups [] tokens = [] ∧
      ∃ found, ofTokens profile (tokens ++ [finish]) = .ok found) := by
  have positive : 0 < maxDepth := by decide
  have atEnd : ∀ token ∈ [finish].head?, token.kind = .finish := by
    intro token member
    cases member
    exact finished
  rcases derivation.beginning shallow within rfl with
    begins | ⟨found, inner, wholeDerivation, depthBound, nestingBound⟩
  · obtain ⟨error, breaksOff, fails⟩ := exists_failsAtEnd positive begins
    have failed := fails 0 (.start (tokens ++ [finish])) [finish]
      (by simp [Phrase.Within, Operator.bindingPower]) rfl atEnd
    have start :
        read profile 0 (.start (tokens ++ [finish])) =
          readWithin maxDepth profile maxDepth 0 (.start (tokens ++ [finish])) :=
      rfl
    refine .inl ⟨error, breaksOff, ?_⟩
    rw [ofTokens, start]
    generalize readWithin maxDepth profile maxDepth 0 (.start (tokens ++ [finish])) =
      reading at failed
    obtain ⟨answer, cursor⟩ := reading
    cases failed
    rfl
  · have before : Token.beforeFinish (tokens ++ [finish]) = tokens :=
      Token.beforeFinish_append wholeDerivation.kind_ne_finish atEnd
    rw [← before] at wholeDerivation
    rcases ofTokens_of_derives wholeDerivation with ⟨_, _, accepted⟩ | ⟨exceeds, _⟩
    · rw [before] at wholeDerivation
      exact .inr ⟨wholeDerivation.not_wantsMore, wholeDerivation.openGroups_eq [], found, accepted⟩
    · omega

theorem beginning_of_accepted
    (unfinished : ∀ token ∈ tokens, token.kind ≠ .finish)
    (accepted : ofTokens profile (tokens ++ more) = .ok expr) (finished : finish.kind = .finish) :
    (∃ error,
      Token.BreaksOff tokens error ∧ ofTokens profile (tokens ++ [finish]) = .error error) ∨
    (¬ Token.WantsMore tokens ∧ Token.openGroups [] tokens = [] ∧
      ∃ found, ofTokens profile (tokens ++ [finish]) = .ok found) := by
  obtain ⟨nesting, derivation, shallow, within⟩ := derives_of_ofTokens accepted
  have split : Token.beforeFinish (tokens ++ more) = tokens ++ Token.beforeFinish more := by
    apply List.takeWhile_append_of_pos
    intro token member
    simpa using unfinished token member
  rw [split] at derivation
  exact ofTokens_of_beginning derivation shallow within finished

/-- Tokens that some more tokens make a query of are a query already, or the reader complains of
what is missing: of the end where the last token wants more after it, otherwise of the group that
was opened last among those that are still open. So tokens with any other complaint against them are
the beginning of no query. -/
theorem ofTokens_of_completable
    (profile : Profile) (tokens : List Token) (finish : Token)
    (unfinished : ∀ token ∈ tokens, token.kind ≠ .finish) (finished : finish.kind = .finish) :
    (∀ more expr,
      ofTokens profile (tokens ++ more) = .ok expr →
        (Token.WantsMore tokens →
          ofTokens profile (tokens ++ [finish]) = .error .unexpectedEnd) ∧
        (¬ Token.WantsMore tokens →
          ∀ opening others,
            Token.openGroups [] tokens = opening :: others →
              ofTokens profile (tokens ++ [finish]) = .error (.unmatchedParen opening.offset)) ∧
        (¬ Token.WantsMore tokens →
          Token.openGroups [] tokens = [] →
            ∃ found, ofTokens profile (tokens ++ [finish]) = .ok found)) ∧
    (∀ error,
      ofTokens profile (tokens ++ [finish]) = .error error →
      error ≠ .unexpectedEnd →
      (∀ offset, error ≠ .unmatchedParen offset) →
        ∀ more expr, ofTokens profile (tokens ++ more) ≠ .ok expr) := by
  constructor
  · intro more expr accepted
    rcases beginning_of_accepted unfinished accepted finished with
      ⟨error, breaksOff, refused⟩ | ⟨satisfied, closed, found, whole⟩
    · cases breaksOff with
      | wantsMore wants =>
          exact ⟨fun _ => refused, fun satisfied => absurd wants satisfied,
            fun satisfied => absurd wants satisfied⟩
      | openGroup satisfied unclosed =>
          refine ⟨fun wants => absurd wants satisfied, ?_, ?_⟩
          · intro _ opening others same
            rw [unclosed] at same
            cases same
            exact refused
          · intro _ closed
            rw [unclosed] at closed
            cases closed
    · refine ⟨fun wants => absurd wants satisfied, ?_, fun _ _ => ⟨found, whole⟩⟩
      intro _ opening others unclosed
      rw [closed] at unclosed
      cases unclosed
  · intro error refused notEnd notGroup more expr accepted
    rcases beginning_of_accepted unfinished accepted finished with
      ⟨other, breaksOff, refusedAlso⟩ | ⟨_, _, found, whole⟩
    · rw [refused] at refusedAlso
      cases refusedAlso
      cases breaksOff with
      | wantsMore _ =>
          exact notEnd rfl
      | openGroup _ _ =>
          exact notGroup _ rfl
    · rw [refused] at whole
      cases whole

/-- In `(has A or (has B` two groups are open, and the inner one is missed first. After `has A B` no
tokens help. -/
theorem ofTokens_of_completable_openGroups :
    let opened : List Token :=
      [⟨.operator .openParen, "(", 0⟩, ⟨.operator .has, "has", 1⟩, ⟨.literal, "A", 5⟩,
        ⟨.operator .or, "or", 7⟩, ⟨.operator .openParen, "(", 10⟩, ⟨.operator .has, "has", 11⟩,
        ⟨.literal, "B", 15⟩]
    let closings : List Token :=
      [⟨.operator .closeParen, ")", 16⟩, ⟨.operator .closeParen, ")", 17⟩, ⟨.finish, "", 18⟩]
    let spoilt : List Token :=
      [⟨.operator .has, "has", 0⟩, ⟨.literal, "A", 4⟩, ⟨.literal, "B", 6⟩]
    ofTokens .substring (opened ++ closings) =
        .ok (.binary .or (.unary .has (.literal "A")) (.unary .has (.literal "B"))) ∧
      ofTokens .substring (opened ++ [⟨.finish, "", 16⟩]) = .error (.unmatchedParen 10) ∧
      ofTokens .substring (spoilt ++ [⟨.finish, "", 7⟩]) = .error (.trailingInput "B" 6) ∧
      ∀ more expr, ofTokens .substring (spoilt ++ more) ≠ .ok expr := by
  intro opened closings spoilt
  have accepted :
      ofTokens .substring (opened ++ closings) =
        .ok (.binary .or (.unary .has (.literal "A")) (.unary .has (.literal "B"))) := by
    decide +kernel
  have satisfied : ¬ Token.WantsMore opened := by
    intro wants
    obtain ⟨op, operator, _⟩ := wants ⟨.literal, "B", 15⟩ rfl
    cases operator
  have missed :=
    ((ofTokens_of_completable .substring opened ⟨.finish, "", 16⟩ (by decide) rfl).1
      closings _ accepted).2.1 satisfied _ _ rfl
  have refused :
      ofTokens .substring (spoilt ++ [⟨.finish, "", 7⟩]) = .error (.trailingInput "B" 6) := by
    decide +kernel
  have helpless :=
    (ofTokens_of_completable .substring spoilt ⟨.finish, "", 7⟩ (by decide) rfl).2
      _ refused nofun nofun
  exact ⟨accepted, missed, refused, helpless⟩

end Expr

end CatalogFilter
