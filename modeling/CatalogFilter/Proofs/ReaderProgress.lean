import CatalogFilter.Expr.OfTokens

/-!
# Where reading gets to

Reading takes tokens from the front and comes back to the nesting that it started at, and it never
goes further in than its levels allow. This holds of every step, whether it succeeds or fails.

From it follows that the count which bounds the operators of one expression never runs out, so
reading on has an equation that does not mention the count.
-/

namespace CatalogFilter

namespace Token

theorem bindingPower_of_operator
    {token : Token} {op : Operator}
    (kind : token.kind = .operator op) :
    token.bindingPower = op.bindingPower := by
  simp [bindingPower, kind]

/-- Only an operator binds. -/
theorem exists_operator_of_bindingPower
    {token : Token} {threshold : Nat} (binds : threshold < token.bindingPower) :
    ∃ op, token.kind = .operator op := by
  rw [bindingPower] at binds
  split at binds
  · exact ⟨_, ‹_›⟩
  · simp at binds
  · simp at binds

/-- No token ahead, or one that does not bind more tightly than `threshold`. -/
def Closes (threshold : Nat) (tokens : List Token) : Prop :=
  ∀ token ∈ tokens.head?, token.bindingPower ≤ threshold

@[simp]
theorem closes_cons
    {threshold : Nat} {token : Token} {tokens : List Token} :
    Closes threshold (token :: tokens) ↔ token.bindingPower ≤ threshold := by
  simp [Closes]

theorem Closes.mono
    {lower upper : Nat} {tokens : List Token}
    (closes : Closes lower tokens) (ordered : lower ≤ upper) :
    Closes upper tokens := by
  intro token ahead
  exact Nat.le_trans (closes token ahead) ordered

end Token

namespace Expr

namespace Cursor

/-- What `levels` levels of reading can make of a cursor. -/
structure Reaches (levels : Nat) (before after : Cursor) : Prop where
  rest : after.rest <:+ before.rest
  nesting : after.nesting = before.nesting
  peak_le : before.peak ≤ after.peak
  peak_bound : after.peak ≤ max before.peak (before.nesting + levels)

namespace Reaches

theorem refl (levels : Nat) (cursor : Cursor) : Reaches levels cursor cursor where
  rest := List.suffix_refl cursor.rest
  nesting := rfl
  peak_le := Nat.le_refl _
  peak_bound := Nat.le_max_left _ _

theorem trans
    {levels : Nat} {before middle after : Cursor}
    (first : Reaches levels before middle)
    (second : Reaches levels middle after) :
    Reaches levels before after where
  rest := second.rest.trans first.rest
  nesting := second.nesting.trans first.nesting
  peak_le := Nat.le_trans first.peak_le second.peak_le
  peak_bound := by
    have bound := second.peak_bound
    rw [first.nesting] at bound
    have earlier := first.peak_bound
    omega

theorem mono
    {levels more : Nat} {before after : Cursor}
    (reaches : Reaches levels before after) (fewer : levels ≤ more) :
    Reaches more before after where
  rest := reaches.rest
  nesting := reaches.nesting
  peak_le := reaches.peak_le
  peak_bound := by
    have bound := reaches.peak_bound
    omega

theorem advance
    {levels : Nat} {cursor : Cursor} {token : Token} {rest : List Token}
    (ahead : cursor.rest = token :: rest) :
    Reaches levels cursor { cursor with rest } where
  rest := ahead ▸ List.suffix_cons token rest
  nesting := rfl
  peak_le := Nat.le_refl _
  peak_bound := Nat.le_max_left _ _

theorem enter_leave
    {levels : Nat} {before after : Cursor}
    (inside : Reaches levels before.enter after) :
    Reaches (levels + 1) before after.leave where
  rest := inside.rest
  nesting := by
    simp [leave, inside.nesting, enter]
  peak_le := by
    have entered := inside.peak_le
    simp only [enter] at entered
    exact Nat.le_trans (Nat.le_max_left _ _) entered
  peak_bound := by
    have bound := inside.peak_bound
    simp only [enter, leave] at bound ⊢
    omega

end Reaches

end Cursor

/-- A way of reading that reaches no further than `levels` levels in. -/
def Steady (levels : Nat) (read : Nat → Cursor → Reading Measured) : Prop :=
  ∀ (threshold : Nat) (cursor : Cursor),
    cursor.Reaches levels (read threshold cursor).2

namespace Reading

theorem reaches_andThen
    {α β : Type} {levels : Nat} {before : Cursor} {reading : Reading α}
    {next : α → Cursor → Reading β}
    (first : before.Reaches levels reading.2)
    (second : ∀ (value : α) (cursor : Cursor),
      cursor.Reaches levels (next value cursor).2) :
    before.Reaches levels (reading.andThen next).2 := by
  obtain ⟨answer, cursor⟩ := reading
  cases answer with
  | error error =>
      exact first
  | ok value =>
      exact first.trans (second value cursor)

/-- A sequence succeeds exactly when both of its steps do. -/
theorem andThen_eq_ok_iff
    {α β : Type} {reading : Reading α} {next : α → Cursor → Reading β} {result : β}
    {after : Cursor} :
    reading.andThen next = (.ok result, after) ↔
      ∃ value cursor, reading = (.ok value, cursor) ∧
        next value cursor = (.ok result, after) := by
  obtain ⟨answer, cursor⟩ := reading
  cases answer with
  | error error =>
      simp
  | ok value =>
      constructor
      · intro finished
        exact ⟨value, cursor, rfl, finished⟩
      · rintro ⟨_, _, same, finished⟩
        cases same
        exact finished

end Reading

/-! ## The steps, by what the token is -/

section Equations

variable {limit : Nat} {profile : Profile} {read : Nat → Cursor → Reading Measured}
variable {token : Token} {op : Operator}

theorem readStart_of_literal
    (kind : token.kind = .literal) (cursor : Cursor) :
    readStart limit profile read token cursor =
      (.ok ⟨.literal token.text, 1⟩, cursor) := by
  simp [readStart, kind]

theorem readStart_of_not
    (kind : token.kind = .operator .not)
    (supported : profile.supports .not = true)
    (cursor : Cursor) :
    readStart limit profile read token cursor =
      (read Operator.not.bindingPower cursor).andThen fun operand after =>
        (unaryNode limit .not token.offset operand, after) := by
  simp [readStart, kind, supported]

theorem readStart_of_containment
    (containment : op = .has ∨ op = .lacks)
    (kind : token.kind = .operator op)
    (supported : profile.supports op = true)
    (cursor : Cursor) :
    readStart limit profile read token cursor =
      (read op.bindingPower cursor).andThen fun operand after =>
        (requireLiteral op operand >>= unaryNode limit op token.offset, after) := by
  rcases containment with rfl | rfl
  · simp [readStart, kind, supported]
  · simp [readStart, kind, supported]

theorem readStart_of_openParen
    (kind : token.kind = .operator .openParen)
    (supported : profile.supports .openParen = true)
    (cursor : Cursor) :
    readStart limit profile read token cursor =
      (read Operator.openParen.bindingPower cursor).andThen
        (closeGroup token.offset) := by
  simp [readStart, kind, supported]

theorem readMore_of_connective
    (connective : op = .and ∨ op = .or)
    (kind : token.kind = .operator op)
    (supported : profile.supports op = true)
    (left : Measured) (cursor : Cursor) :
    readMore limit profile read token left cursor =
      (read op.bindingPower cursor).andThen fun right after =>
        (binaryNode limit op token.offset left right, after) := by
  rcases connective with rfl | rfl
  · simp [readMore, kind, supported]
  · simp [readMore, kind, supported]

theorem readMore_of_isComparison
    (comparison : op.isComparison = true)
    (kind : token.kind = .operator op)
    (supported : profile.supports op = true)
    (left : Measured) (cursor : Cursor) :
    readMore limit profile read token left cursor =
      if left.expr.isLiteral then
        (read op.bindingPower cursor).andThen fun right after =>
          (requireLiteral op right >>= binaryNode limit op token.offset left, after)
      else
        (.error (.expectedLiteral op), cursor) := by
  by_cases literal : left.expr.isLiteral = true
  · cases op <;> simp_all [readMore, requireLiteral, Operator.isComparison]
  · cases op <;> simp_all [readMore, requireLiteral, Operator.isComparison]

theorem readMore_of_unexpected
    (notConnective : ¬(op = .and ∨ op = .or))
    (notComparison : ¬op.isComparison = true)
    (kind : token.kind = .operator op)
    (supported : profile.supports op = true)
    (left : Measured) (cursor : Cursor) :
    readMore limit profile read token left cursor =
      (.error (.unexpectedToken token.text token.offset), cursor) := by
  cases op <;> simp_all [readMore, Operator.isComparison]

theorem readMore_of_not_supports
    (kind : token.kind = .operator op)
    (unsupported : ¬profile.supports op = true)
    (left : Measured) (cursor : Cursor) :
    readMore limit profile read token left cursor =
      (.error (.unsupportedOperator op profile), cursor) := by
  simp [readMore, kind, unsupported]

theorem closeGroup_of_unclosed
    {cursor : Cursor}
    (unclosed : ∀ token ∈ cursor.rest.head?, token.kind ≠ .operator .closeParen)
    (offset : Nat) (inner : Measured) :
    closeGroup offset inner cursor = (.error (.unmatchedParen offset), cursor) := by
  rw [closeGroup]
  split
  · rename_i ahead
    have closing := unclosed _ (by rw [ahead]; rfl)
    exact absurd rfl closing
  · rfl

/-- No group is closed where the tokens end. -/
theorem closeGroup_of_finished
    {cursor : Cursor} (finished : ∀ token ∈ cursor.rest.head?, token.kind = .finish)
    (offset : Nat) (inner : Measured) :
    closeGroup offset inner cursor = (.error (.unmatchedParen offset), cursor) := by
  apply closeGroup_of_unclosed
  intro token ahead closes
  rw [finished token ahead] at closes
  cases closes

/-- No expression starts where the tokens end. -/
theorem exists_readAbove_of_finished
    {cursor : Cursor} (finished : ∀ token ∈ cursor.rest.head?, token.kind = .finish)
    (threshold : Nat) :
    ∃ after, readAbove limit profile read threshold cursor = (.error .unexpectedEnd, after) := by
  rw [readAbove]
  cases ahead : cursor.rest with
  | nil =>
      exact ⟨cursor, rfl⟩
  | cons token rest =>
      have last : token.kind = .finish := by
        apply finished
        simp [ahead]
      exact ⟨{ cursor with rest }, by simp [readStart, last]⟩

end Equations

/-! ## The steps -/

section Steps

variable {limit levels : Nat} {profile : Profile}
variable {read : Nat → Cursor → Reading Measured}

theorem reaches_closeGroup (offset : Nat) (inner : Measured) (cursor : Cursor) :
    cursor.Reaches levels (closeGroup offset inner cursor).2 := by
  unfold closeGroup
  split
  · rename_i ahead
    exact .advance ahead
  · exact .refl levels cursor

theorem reaches_answer
    (steady : Steady levels read) (threshold : Nat) (cursor : Cursor)
    (answer : Measured → Except ParseError Measured) :
    cursor.Reaches levels
      ((read threshold cursor).andThen fun operand after => (answer operand, after)).2 := by
  apply Reading.reaches_andThen
  · exact steady threshold cursor
  · intro operand after
    exact .refl levels after

theorem reaches_readStart
    (steady : Steady levels read) (token : Token) (cursor : Cursor) :
    cursor.Reaches levels (readStart limit profile read token cursor).2 := by
  unfold readStart
  split
  · exact .refl levels cursor
  · exact .refl levels cursor
  · split
    · split
      · exact reaches_answer steady _ cursor _
      · exact reaches_answer steady _ cursor _
      · exact reaches_answer steady _ cursor _
      · apply Reading.reaches_andThen
        · exact steady _ cursor
        · exact reaches_closeGroup token.offset
      · exact .refl levels cursor
    · exact .refl levels cursor

theorem reaches_readMore
    (steady : Steady levels read) (token : Token) (left : Measured) (cursor : Cursor) :
    cursor.Reaches levels (readMore limit profile read token left cursor).2 := by
  unfold readMore
  split
  · exact .refl levels cursor
  · exact .refl levels cursor
  · split
    · split
      case h_9 =>
        exact .refl levels cursor
      case h_1 | h_2 =>
        exact reaches_answer steady _ cursor _
      all_goals
        split
        · exact .refl levels cursor
        · exact reaches_answer steady _ cursor _
    · exact .refl levels cursor

theorem reaches_readOn (steady : Steady levels read) (threshold : Nat) :
    ∀ (steps : Nat) (left : Measured) (cursor : Cursor),
      cursor.Reaches levels
        (readOn limit profile read threshold steps left cursor).2
  | 0, _, cursor =>
      .refl levels cursor
  | steps + 1, left, cursor => by
      rw [readOn]
      split
      · exact .refl levels cursor
      · rename_i token rest ahead
        split
        · have taken : cursor.Reaches levels { cursor with rest } :=
            .advance ahead
          apply taken.trans
          apply Reading.reaches_andThen
          · exact reaches_readMore steady token left _
          · exact reaches_readOn steady threshold steps
        · exact .refl levels cursor

theorem reaches_readAbove
    (steady : Steady levels read) (threshold : Nat) (cursor : Cursor) :
    cursor.Reaches levels (readAbove limit profile read threshold cursor).2 := by
  unfold readAbove
  split
  · exact .refl levels cursor
  · rename_i token rest ahead
    have taken : cursor.Reaches levels { cursor with rest } :=
      .advance ahead
    apply taken.trans
    apply Reading.reaches_andThen
    · exact reaches_readStart steady token _
    · intro left after
      exact reaches_readOn steady threshold after.rest.length left after

end Steps

/-- Every run of the reader comes back to its nesting, within its levels. -/
theorem steady_readWithin (limit : Nat) (profile : Profile) :
    ∀ levels : Nat, Steady levels (readWithin limit profile levels)
  | 0, _, cursor =>
      .refl 0 cursor
  | levels + 1, threshold, cursor => by
      have steady := steady_readWithin limit profile levels
      apply Cursor.Reaches.enter_leave
      exact reaches_readAbove steady threshold cursor.enter

/-! ## Reading on without a count -/

section ReadRest

variable {limit levels threshold : Nat} {profile : Profile}
variable {read : Nat → Cursor → Reading Measured}

/-- Two counts that cover the tokens ahead make no difference. -/
theorem readOn_eq_of_length_le (steady : Steady levels read) :
    ∀ {steps others : Nat} {cursor : Cursor} (left : Measured),
      cursor.rest.length ≤ steps →
        cursor.rest.length ≤ others →
          readOn limit profile read threshold steps left cursor =
            readOn limit profile read threshold others left cursor
  | 0, others, cursor, left, covered, _ => by
      have empty : cursor.rest = [] :=
        List.eq_nil_of_length_eq_zero (Nat.le_zero.1 covered)
      cases others with
      | zero =>
          rfl
      | succ others =>
          simp [readOn, empty]
  | steps + 1, 0, cursor, left, _, covered => by
      have empty : cursor.rest = [] :=
        List.eq_nil_of_length_eq_zero (Nat.le_zero.1 covered)
      simp [readOn, empty]
  | steps + 1, others + 1, cursor, left, covered, othersCovered => by
      rw [readOn, readOn]
      split
      · rfl
      · rename_i token rest ahead
        split
        · have reached :
              Cursor.Reaches levels { cursor with rest }
                (readMore limit profile read token left { cursor with rest }).2 :=
            reaches_readMore steady token left _
          have shorter := reached.rest.length_le
          rw [ahead, List.length_cons] at covered othersCovered
          generalize readMore limit profile read token left { cursor with rest } =
            reading at shorter
          obtain ⟨answer, after⟩ := reading
          cases answer with
          | error error =>
              rfl
          | ok grown =>
              have fewer : after.rest.length ≤ steps :=
                Nat.le_trans shorter (Nat.le_of_succ_le_succ covered)
              have othersFewer : after.rest.length ≤ others :=
                Nat.le_trans shorter (Nat.le_of_succ_le_succ othersCovered)
              exact readOn_eq_of_length_le steady grown fewer othersFewer
        · rfl

/-- Reading on to the first token that does not bind more tightly than `threshold`. -/
def readRest (limit : Nat) (profile : Profile) (read : Nat → Cursor → Reading Measured)
    (threshold : Nat) (left : Measured) (cursor : Cursor) : Reading Measured :=
  readOn limit profile read threshold cursor.rest.length left cursor

theorem readAbove_eq_readRest
    {cursor : Cursor} {token : Token} {rest : List Token}
    (ahead : cursor.rest = token :: rest) :
    readAbove limit profile read threshold cursor =
      (readStart limit profile read token { cursor with rest }).andThen
        (readRest limit profile read threshold) := by
  rw [readAbove, ahead]
  rfl

theorem readRest_of_closes
    {cursor : Cursor} (left : Measured)
    (closes : Token.Closes threshold cursor.rest) :
    readRest limit profile read threshold left cursor = (.ok left, cursor) := by
  rw [readRest]
  cases ahead : cursor.rest with
  | nil =>
      rfl
  | cons token rest =>
      rw [ahead, Token.closes_cons] at closes
      have loose : ¬ threshold < token.bindingPower := Nat.not_lt.2 closes
      simp [readOn, ahead, loose]

theorem readRest_of_lt
    {cursor : Cursor} {token : Token} {rest : List Token} (left : Measured)
    (steady : Steady levels read)
    (ahead : cursor.rest = token :: rest)
    (binds : threshold < token.bindingPower) :
    readRest limit profile read threshold left cursor =
      (readMore limit profile read token left { cursor with rest }).andThen
        (readRest limit profile read threshold) := by
  have reached :
      Cursor.Reaches levels { cursor with rest }
        (readMore limit profile read token left { cursor with rest }).2 :=
    reaches_readMore steady token left _
  have shorter := reached.rest.length_le
  rw [readRest, ahead, List.length_cons, readOn, ahead]
  simp only [binds, if_true]
  generalize readMore limit profile read token left { cursor with rest } =
    reading at shorter
  obtain ⟨answer, after⟩ := reading
  cases answer with
  | error error =>
      rfl
  | ok grown =>
      exact readOn_eq_of_length_le steady grown shorter (Nat.le_refl _)

end ReadRest

end Expr

end CatalogFilter
