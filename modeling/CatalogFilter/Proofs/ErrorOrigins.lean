import CatalogFilter.Proofs.ReaderSoundness
import CatalogFilter.Proofs.TokenPlaces
import CatalogFilter.Proofs.WellFormed

/-!
# The tokens that parse errors come from

The reader complains of a token that it has in hand or that is ahead of it. Its tokens end with the
one that marks the end of the query, and it never gets past that one, so there always is a token
ahead to complain of. Each step of the reader keeps to this, and a whole reading follows by
induction on the levels.

Of a query's source this says where the text stands that a parse error names, and that the text in
front of trailing input is a query.
-/

namespace CatalogFilter

namespace ParseError

/-- The byte offset that an error names. -/
def offset? : ParseError → Option Nat
  | .unexpectedToken _ offset | .unmatchedParen offset | .trailingInput _ offset
  | .tooDeep offset => some offset
  | .unexpectedEnd | .unsupportedOperator _ _ | .expectedLiteral _ => none

/-- The text that an error names as found. -/
def found? : ParseError → Option String
  | .unexpectedToken found _ | .trailingInput found _ => some found
  | .unexpectedEnd | .unmatchedParen _ | .unsupportedOperator _ _ | .expectedLiteral _
  | .tooDeep _ => none

/-- An error that reading an expression can have with these tokens. -/
inductive ArisesFrom (tokens : List Token) : ParseError → Prop
  | unexpectedEnd :
      ArisesFrom tokens .unexpectedEnd
  | unexpectedToken {token : Token} {op : Operator} :
      token ∈ tokens →
      token.kind = .operator op →
      ArisesFrom tokens (.unexpectedToken token.text token.offset)
  | unmatchedParen {opening : Token} :
      opening ∈ tokens →
      opening.kind = .operator .openParen →
      ArisesFrom tokens (.unmatchedParen opening.offset)
  | unsupportedOperator (op : Operator) (profile : Profile) :
      ArisesFrom tokens (.unsupportedOperator op profile)
  | expectedLiteral (op : Operator) :
      ArisesFrom tokens (.expectedLiteral op)
  | tooDeep {token : Token} :
      token ∈ tokens →
      ArisesFrom tokens (.tooDeep token.offset)

end ParseError

namespace Token

/-- The tokens end with `rest`, which is not empty. -/
def Ahead (tokens rest : List Token) : Prop :=
  rest <:+ tokens ∧ rest ≠ []

/-- A token that does not mark the end has more behind it. -/
theorem Ahead.tail
    {tokens rest : List Token} {token : Token}
    (ended : ∀ last ∈ tokens.getLast?, last.kind = .finish)
    (ahead : Ahead tokens (token :: rest)) (kind : token.kind ≠ .finish) :
    Ahead tokens rest := by
  obtain ⟨front, split⟩ := ahead.1
  refine ⟨(List.suffix_cons token rest).trans ahead.1, ?_⟩
  rintro rfl
  apply kind
  apply ended
  rw [← split, List.getLast?_concat]
  rfl

theorem Ahead.mem
    {tokens rest : List Token} {token : Token} (ahead : Ahead tokens (token :: rest)) :
    token ∈ tokens :=
  ahead.1.subset (List.mem_cons_self ..)

end Token

namespace Expr

/-- A success leaves tokens ahead, and a failure arises from the tokens. -/
inductive Traces {α : Type} (tokens : List Token) : Reading α → Prop
  | success {value : α} {after : Cursor} :
      Token.Ahead tokens after.rest →
      Traces tokens (.ok value, after)
  | failure {error : ParseError} {after : Cursor} :
      error.ArisesFrom tokens →
      Traces tokens (.error error, after)

/-- A way of reading that leaves tokens ahead, or fails from the tokens. -/
def Tracing (tokens : List Token) (read : Nat → Cursor → Reading Measured) : Prop :=
  ∀ (threshold : Nat) (cursor : Cursor),
    Token.Ahead tokens cursor.rest →
    Traces tokens (read threshold cursor)

theorem Traces.andThen
    {α β : Type} {tokens : List Token} {reading : Reading α} {next : α → Cursor → Reading β}
    (first : Traces tokens reading)
    (second : ∀ (value : α) (cursor : Cursor),
      Token.Ahead tokens cursor.rest → Traces tokens (next value cursor)) :
    Traces tokens (reading.andThen next) := by
  cases first with
  | success ahead =>
      exact second _ _ ahead
  | failure arises =>
      exact .failure arises

theorem Traces.leave
    {α : Type} {tokens : List Token} {reading : Reading α} (traces : Traces tokens reading) :
    Traces tokens (reading.1, reading.2.leave) := by
  cases traces with
  | success ahead =>
      exact .success ahead
  | failure arises =>
      exact .failure arises

section Steps

variable {limit threshold : Nat} {profile : Profile} {tokens rest : List Token} {token : Token}
variable {read : Nat → Cursor → Reading Measured} {cursor : Cursor} {op : Operator}

theorem arisesFrom_of_unaryNode
    {operand : Measured} {error : ParseError} (member : token ∈ tokens)
    (failed : unaryNode limit op token.offset operand = .error error) :
    error.ArisesFrom tokens := by
  rw [unaryNode_eq] at failed
  split at failed
  · cases failed
  · cases failed
    exact .tooDeep member

theorem arisesFrom_of_binaryNode
    {left right : Measured} {error : ParseError} (member : token ∈ tokens)
    (failed : binaryNode limit op token.offset left right = .error error) :
    error.ArisesFrom tokens := by
  rw [binaryNode_eq] at failed
  split at failed
  · cases failed
  · cases failed
    exact .tooDeep member

theorem arisesFrom_of_requireLiteral_bind
    {operand : Measured} {next : Measured → Except ParseError Measured} {error : ParseError}
    (failed : (requireLiteral op operand >>= next) = .error error)
    (arises : next operand = .error error → error.ArisesFrom tokens) :
    error.ArisesFrom tokens := by
  by_cases literal : operand.expr.isLiteral = true
  · rw [requireLiteral_of_isLiteral op literal] at failed
    exact arises failed
  · have refused : requireLiteral op operand = .error (.expectedLiteral op) := by
      simp [requireLiteral, literal]
    rw [refused] at failed
    cases failed
    exact .expectedLiteral op

/-- What is answered after an operand was read leaves the tokens ahead as they are. -/
theorem traces_answer
    {answer : Measured → Except ParseError Measured} (tracing : Tracing tokens read)
    (ahead : Token.Ahead tokens cursor.rest)
    (arises : ∀ {operand : Measured} {error : ParseError},
      answer operand = .error error → error.ArisesFrom tokens) :
    Traces tokens
      ((read threshold cursor).andThen fun operand after => (answer operand, after)) := by
  apply (tracing threshold cursor ahead).andThen
  intro operand after left
  cases answered : answer operand with
  | ok result =>
      exact .success left
  | error error =>
      exact .failure (arises answered)

variable (ended : ∀ last ∈ tokens.getLast?, last.kind = .finish)

include ended

theorem traces_closeGroup
    {opening : Token} {inner : Measured} (kind : opening.kind = .operator .openParen)
    (member : opening ∈ tokens) (ahead : Token.Ahead tokens cursor.rest) :
    Traces tokens (closeGroup opening.offset inner cursor) := by
  rw [closeGroup]
  split
  · rename_i text offset rest split
    rw [split] at ahead
    exact .success (ahead.tail ended (by simp))
  · exact .failure (.unmatchedParen member kind)

theorem traces_readStart
    (tracing : Tracing tokens read) (ahead : Token.Ahead tokens (token :: cursor.rest)) :
    Traces tokens (readStart limit profile read token cursor) := by
  have member := ahead.mem
  rw [readStart]
  split
  · rename_i kind
    exact .success (ahead.tail ended (by simp [kind]))
  · exact .failure .unexpectedEnd
  · rename_i op kind
    have inside : Token.Ahead tokens cursor.rest :=
      ahead.tail ended (by simp [kind])
    split
    · split
      case h_1 =>
        exact traces_answer tracing inside (arisesFrom_of_unaryNode member)
      case h_2 | h_3 =>
        apply traces_answer tracing inside
        intro operand error failed
        exact arisesFrom_of_requireLiteral_bind failed (arisesFrom_of_unaryNode member)
      case h_4 =>
        apply (tracing _ cursor inside).andThen
        intro inner after left
        exact traces_closeGroup ended kind member left
      case h_5 =>
        exact .failure (.unexpectedToken member kind)
    · exact .failure (.unsupportedOperator op profile)

theorem traces_readMore
    {left : Measured} (tracing : Tracing tokens read)
    (ahead : Token.Ahead tokens (token :: cursor.rest)) (kind : token.kind = .operator op) :
    Traces tokens (readMore limit profile read token left cursor) := by
  have member := ahead.mem
  have inside : Token.Ahead tokens cursor.rest :=
    ahead.tail ended (by simp [kind])
  by_cases supported : profile.supports op = true
  · by_cases connective : op = .and ∨ op = .or
    · rw [readMore_of_connective connective kind supported]
      exact traces_answer tracing inside (arisesFrom_of_binaryNode member)
    · by_cases comparison : op.isComparison = true
      · rw [readMore_of_isComparison comparison kind supported]
        split
        · apply traces_answer tracing inside
          intro operand error failed
          exact arisesFrom_of_requireLiteral_bind failed (arisesFrom_of_binaryNode member)
        · exact .failure (.expectedLiteral op)
      · rw [readMore_of_unexpected connective comparison kind supported]
        exact .failure (.unexpectedToken member kind)
  · rw [readMore_of_not_supports kind supported]
    exact .failure (.unsupportedOperator op profile)

theorem traces_readOn (tracing : Tracing tokens read) :
    ∀ (steps : Nat) (left : Measured) {cursor : Cursor},
      Token.Ahead tokens cursor.rest →
        Traces tokens (readOn limit profile read threshold steps left cursor)
  | 0, _, _, ahead =>
      .success ahead
  | steps + 1, left, cursor, ahead => by
      rw [readOn]
      split
      · exact .success ahead
      · rename_i token rest split
        split
        · rename_i binds
          obtain ⟨op, kind⟩ := Token.exists_operator_of_bindingPower binds
          rw [split] at ahead
          have grown :
              Traces tokens (readMore limit profile read token left { cursor with rest }) :=
            traces_readMore ended tracing ahead kind
          apply grown.andThen
          intro longer after remains
          exact traces_readOn tracing steps longer remains
        · exact .success ahead

theorem traces_readAbove
    (tracing : Tracing tokens read) (ahead : Token.Ahead tokens cursor.rest) :
    Traces tokens (readAbove limit profile read threshold cursor) := by
  rw [readAbove]
  split
  · exact .failure .unexpectedEnd
  · rename_i token rest split
    rw [split] at ahead
    have started : Traces tokens (readStart limit profile read token { cursor with rest }) :=
      traces_readStart ended tracing ahead
    apply started.andThen
    intro left after remains
    exact traces_readOn ended tracing after.rest.length left remains

/-- Reading fails only from the tokens, at any number of levels. -/
theorem tracing_readWithin (limit : Nat) (profile : Profile) :
    ∀ levels : Nat, Tracing tokens (readWithin limit profile levels)
  | 0, _, cursor, ahead => by
      -- There is a token ahead, so the offset is its offset.
      obtain ⟨token, rest, split⟩ := List.exists_cons_of_ne_nil ahead.2
      have offset : cursor.offset = token.offset := by
        rw [Cursor.offset, split]
      rw [readWithin, offset]
      rw [split] at ahead
      exact .failure (.tooDeep ahead.mem)
  | levels + 1, threshold, cursor, ahead => by
      have inside : Token.Ahead tokens cursor.enter.rest := ahead
      have traces :
          Traces tokens
            (readAbove limit profile (readWithin limit profile levels) threshold cursor.enter) :=
        traces_readAbove ended (tracing_readWithin limit profile levels) inside
      exact traces.leave

end Steps

/-- What a reading has taken from the front is an expression by itself. -/
theorem exists_ofTokens_of_read
    {profile : Profile} {tokens : List Token} {result : Measured} {after : Cursor}
    (finished : read profile 0 (.start tokens) = (.ok result, after)) :
    ∃ front,
      tokens = front ++ after.rest ∧
        ∀ finish : Token, finish.kind = .finish →
          ofTokens profile (front ++ [finish]) = .ok result.expr := by
  have positive : 0 < maxDepth := by decide
  obtain ⟨front, nesting, split, derivation, within, _, shallow⟩ :=
    sound_readWithin positive profile _ _ _ _ _ finished
  refine ⟨front, split, ?_⟩
  intro finish isFinish
  have before : Token.beforeFinish (front ++ [finish]) = front := by
    apply Token.beforeFinish_append derivation.kind_ne_finish
    rintro _ ⟨⟩
    exact isFinish
  rw [← before] at derivation
  rcases ofTokens_of_derives derivation with ⟨_, _, accepted⟩ | ⟨exceeds, _⟩
  · exact accepted
  · omega

/-- Tokens that form no expression give rise to the error, or something comes behind an expression
that the tokens before it form. -/
theorem arisesFrom_of_ofTokens
    {profile : Profile} {tokens : List Token} {error : ParseError}
    (ended : ∀ last ∈ tokens.getLast?, last.kind = .finish) (nonempty : tokens ≠ [])
    (failed : ofTokens profile tokens = .error error) :
    error.ArisesFrom tokens ∨
      ∃ front token back,
        tokens = front ++ token :: back ∧
          token.kind ≠ .finish ∧
            error = .trailingInput token.text token.offset ∧
              ∀ finish : Token, finish.kind = .finish →
                ∃ expr, ofTokens profile (front ++ [finish]) = .ok expr := by
  have traces : Traces tokens (read profile 0 (.start tokens)) :=
    tracing_readWithin ended maxDepth profile maxDepth 0 (.start tokens)
      ⟨List.suffix_refl tokens, nonempty⟩
  rw [ofTokens] at failed
  cases reading : read profile 0 (.start tokens) with
  | mk answer after =>
      rw [reading] at traces failed
      cases traces with
      | failure arises =>
          cases failed
          exact .inl arises
      | @success result _ ahead =>
          obtain ⟨front, split, accepted⟩ := exists_ofTokens_of_read reading
          obtain ⟨token, back, remains⟩ := List.exists_cons_of_ne_nil ahead.2
          simp only [remains] at failed split
          split at failed
          · cases failed
          · rename_i kind
            cases failed
            refine .inr ⟨front, token, back, split, kind, rfl, ?_⟩
            intro finish isFinish
            exact ⟨result.expr, accepted finish isFinish⟩

end Expr

namespace Query

variable {profile : Profile} {source : String}

theorem compile_eq_parse_error_iff {error : ParseError} :
    compile profile source = .error (.parse error) ↔
      ∃ tokens,
        Token.scan profile source = .ok tokens ∧
          Expr.ofTokens profile tokens = .error error := by
  unfold compile
  cases scanned : Token.scan profile source with
  | error error =>
      simp
  | ok tokens =>
      cases parsed : Expr.ofTokens profile tokens with
      | error error =>
          simp [parsed]
      | ok root =>
          simp [parsed]

/-- A parse error of a query names what its source holds. The offset is the offset of a token, and
the text that was found is the text of this token. An unexpected token stands at its offset as it is
named, and an unmatched parenthesis is one. What comes before trailing input compiles. -/
theorem parse_error_names_token
    {error : ParseError} (failed : compile profile source = .error (.parse error)) :
    ∃ tokens,
      Token.scan profile source = .ok tokens ∧
      (∀ offset, error.offset? = some offset →
        ∃ token ∈ tokens,
          token.offset = offset ∧ ∀ found, error.found? = some found → token.text = found) ∧
      (∀ found offset, error = .unexpectedToken found offset →
        StandsAt source found offset) ∧
      (∀ offset, error = .unmatchedParen offset →
        StandsAt source "(" offset ∧
          ∃ token ∈ tokens, token.kind = .operator .openParen ∧ token.offset = offset) ∧
      (∀ found offset, error = .trailingInput found offset →
        ∃ before after : String,
          source = before ++ after ∧
            before.utf8ByteSize = offset ∧
              ∃ query, compile profile before = .ok query) := by
  obtain ⟨tokens, scanned, refused⟩ := compile_eq_parse_error_iff.1 failed
  have ended := Token.kind_of_mem_getLast?_scan scanned
  refine ⟨tokens, scanned, ?_⟩
  rcases Expr.arisesFrom_of_ofTokens ended (Token.scan_ne_nil scanned) refused with
    arises | ⟨front, token, back, rfl, kind, rfl, accepted⟩
  · cases arises with
    | unexpectedEnd | unsupportedOperator | expectedLiteral =>
        refine ⟨nofun, nofun, nofun, nofun⟩
    | @unexpectedToken token op member kind =>
        obtain ⟨text, stands⟩ := Token.standsAt_of_mem_scan scanned member kind
        refine ⟨?_, ?_, nofun, nofun⟩
        · rintro offset ⟨⟩
          refine ⟨token, member, rfl, ?_⟩
          rintro found ⟨⟩
          rfl
        · rintro found offset ⟨⟩
          rw [text]
          exact stands
    | @unmatchedParen opening member kind =>
        refine ⟨?_, nofun, ?_, nofun⟩
        · rintro offset ⟨⟩
          exact ⟨opening, member, rfl, nofun⟩
        · rintro offset ⟨⟩
          exact ⟨(Token.standsAt_of_mem_scan scanned member kind).2, opening, member, kind, rfl⟩
    | @tooDeep token member =>
        refine ⟨?_, nofun, nofun, nofun⟩
        rintro offset ⟨⟩
        exact ⟨token, member, rfl, nofun⟩
  · obtain ⟨before, after, lexeme, split, rfl, cut⟩ := Token.exists_cut_of_scan scanned kind
    refine ⟨?_, nofun, nofun, ?_⟩
    · rintro offset ⟨⟩
      refine ⟨_, by simp, rfl, ?_⟩
      rintro found ⟨⟩
      rfl
    · rintro found offset ⟨⟩
      obtain ⟨expr, parsed⟩ := accepted ⟨.finish, "", before.utf8ByteSize⟩ rfl
      refine ⟨before, String.ofList lexeme.spelling ++ after, ?_, ?_, ?_⟩
      · rw [split, String.append_assoc]
      · exact (lexeme.offset_toToken _).symm
      · exact ⟨_, compile_eq_ok_iff.2 ⟨_, expr, cut, parsed, rfl⟩⟩

/-- In a text with a letter of two bytes, the offset counts bytes. -/
theorem parse_error_names_token_trailing :
    compile .substring "has é B" = .error (.parse (.trailingInput "B" 7)) ∧
      ∃ before after : String,
        "has é B" = before ++ after ∧
          before.utf8ByteSize = 7 ∧
            ∃ query, compile .substring before = .ok query := by
  have failed : compile .substring "has é B" = .error (.parse (.trailingInput "B" 7)) := by
    decide +kernel
  obtain ⟨_, _, _, _, _, trailing⟩ := parse_error_names_token failed
  exact ⟨failed, trailing _ _ rfl⟩

end Query

end CatalogFilter
