import CatalogFilter.Proofs.Acceptance
import CatalogFilter.Query

/-!
# Nothing behind the end is read

The token that marks the end of a query starts no expression, continues none and closes no group.
So the reader stops there, with an expression or with an error, and takes the same course when the
tokens end without a mark. Two readings of the same tokens with different tails behind them run in
parallel until both stop. What lies behind the tokens shows in one place only: where the nesting is
exhausted there, the error names the offset of the token ahead, or 0 if there is none.
-/

namespace CatalogFilter

namespace Expr

namespace Cursor

/-- The cursor with more tokens behind those that are left. -/
def before (cursor : Cursor) (tail : List Token) : Cursor :=
  { cursor with rest := cursor.rest ++ tail }

end Cursor

namespace Reading

/-- Two readings from the same cursor with different tails behind it. Both succeed with the same
value and leave the same last tokens of the cursor before their tails, or both fail with the same
error. Where the nesting is exhausted at the end of these tokens, each error has the offset of its
own tail. -/
inductive Parallel {α : Type} (first second : List Token) (cursor : Cursor) :
    Reading α → Reading α → Prop
  | success (value : α) {after : Cursor} :
      after.rest <:+ cursor.rest →
      Parallel first second cursor (.ok value, after.before first) (.ok value, after.before second)
  | failure (error : ParseError) (after after' : Cursor) :
      Parallel first second cursor (.error error, after) (.error error, after')
  | tooDeep (after after' : Cursor) :
      Parallel first second cursor
        (.error (.tooDeep (Cursor.start first).offset), after)
        (.error (.tooDeep (Cursor.start second).offset), after')

namespace Parallel

variable {α β : Type} {first second : List Token} {cursor earlier : Cursor}
variable {reading reading' : Reading α}

theorem mono
    (parallel : Parallel first second cursor reading reading')
    (suffix : cursor.rest <:+ earlier.rest) :
    Parallel first second earlier reading reading' := by
  cases parallel with
  | success value left =>
      exact .success value (left.trans suffix)
  | failure error after after' =>
      exact .failure error after after'
  | tooDeep after after' =>
      exact .tooDeep after after'

theorem andThen
    {next : α → Cursor → Reading β}
    (parallel : Parallel first second cursor reading reading')
    (onward : ∀ (value : α) (after : Cursor),
      after.rest <:+ cursor.rest →
      Parallel first second after
        (next value (after.before first)) (next value (after.before second))) :
    Parallel first second cursor (reading.andThen next) (reading'.andThen next) := by
  cases parallel with
  | @success value after left =>
      exact (onward value after left).mono left
  | failure error after after' =>
      exact .failure error after after'
  | tooDeep after after' =>
      exact .tooDeep after after'

theorem leave
    {outside : Cursor} (parallel : Parallel first second outside.enter reading reading') :
    Parallel first second outside (reading.1, reading.2.leave) (reading'.1, reading'.2.leave) := by
  cases parallel with
  | @success value after left =>
      have remains : after.leave.rest <:+ outside.rest := left
      exact .success value remains
  | failure error after after' =>
      exact .failure error after.leave after'.leave
  | tooDeep after after' =>
      exact .tooDeep after.leave after'.leave

end Parallel

/-- An answer that does not depend on the tokens. -/
theorem parallel_answer
    {first second : List Token} {α : Type} (answer : Except ParseError α) (cursor : Cursor) :
    Parallel first second cursor (answer, cursor.before first) (answer, cursor.before second) := by
  cases answer with
  | ok value =>
      exact .success value (List.suffix_refl cursor.rest)
  | error error =>
      exact .failure error _ _

end Reading

/-- A way of reading that runs in parallel on any tokens with one of the two tails behind them. -/
def ReadsParallel (first second : List Token) (read : Nat → Cursor → Reading Measured) : Prop :=
  ∀ (threshold : Nat) (cursor : Cursor),
    Reading.Parallel first second cursor
      (read threshold (cursor.before first)) (read threshold (cursor.before second))

open Reading

section Steps

variable {limit levels : Nat} {profile : Profile} {first second : List Token}
variable {read : Nat → Cursor → Reading Measured} {token : Token} {op : Operator}

theorem parallel_operand
    (parallel : ReadsParallel first second read) (threshold : Nat) (cursor : Cursor)
    (answer : Measured → Except ParseError Measured) :
    Parallel first second cursor
      ((read threshold (cursor.before first)).andThen fun operand after => (answer operand, after))
      ((read threshold (cursor.before second)).andThen fun operand after =>
        (answer operand, after)) := by
  apply (parallel threshold cursor).andThen
  intro operand after _
  exact parallel_answer (answer operand) after

theorem parallel_readMore
    (parallel : ReadsParallel first second read) (kind : token.kind = .operator op)
    (left : Measured) (cursor : Cursor) :
    Parallel first second cursor
      (readMore limit profile read token left (cursor.before first))
      (readMore limit profile read token left (cursor.before second)) := by
  by_cases supported : profile.supports op = true
  · by_cases connective : op = .and ∨ op = .or
    · rw [readMore_of_connective connective kind supported,
        readMore_of_connective connective kind supported]
      exact parallel_operand parallel _ cursor _
    · by_cases comparison : op.isComparison = true
      · rw [readMore_of_isComparison comparison kind supported,
          readMore_of_isComparison comparison kind supported]
        by_cases literal : left.expr.isLiteral = true
        · rw [if_pos literal, if_pos literal]
          exact parallel_operand parallel _ cursor _
        · rw [if_neg literal, if_neg literal]
          exact .failure _ _ _
      · rw [readMore_of_unexpected connective comparison kind supported,
          readMore_of_unexpected connective comparison kind supported]
        exact .failure _ _ _
  · rw [readMore_of_not_supports kind supported, readMore_of_not_supports kind supported]
    exact .failure _ _ _

variable (firstFinished : ∀ token ∈ first.head?, token.kind = .finish)
variable (secondFinished : ∀ token ∈ second.head?, token.kind = .finish)

include firstFinished secondFinished

theorem parallel_closeGroup (offset : Nat) (inner : Measured) (cursor : Cursor) :
    Parallel first second cursor
      (closeGroup offset inner (cursor.before first))
      (closeGroup offset inner (cursor.before second)) := by
  obtain ⟨ahead, nesting, peak⟩ := cursor
  cases ahead with
  | nil =>
      rw [closeGroup_of_finished firstFinished, closeGroup_of_finished secondFinished]
      exact .failure _ _ _
  | cons token rest =>
      by_cases closes : token.kind = .operator .closeParen
      · have closed (tail : List Token) :
            closeGroup offset inner (Cursor.before ⟨token :: rest, nesting, peak⟩ tail) =
              (.ok inner, Cursor.before ⟨rest, nesting, peak⟩ tail) :=
          closeGroup_eq_ok_iff.2 ⟨rfl, token, rest ++ tail, closes, rfl, rfl⟩
        rw [closed, closed]
        exact .success inner (List.suffix_cons token rest)
      · have unmatched (tail : List Token) :
            closeGroup offset inner (Cursor.before ⟨token :: rest, nesting, peak⟩ tail) =
              (.error (.unmatchedParen offset),
                Cursor.before ⟨token :: rest, nesting, peak⟩ tail) := by
          apply closeGroup_of_unclosed
          rintro _ ⟨⟩
          exact closes
        rw [unmatched, unmatched]
        exact .failure _ _ _

theorem parallel_readStart
    (parallel : ReadsParallel first second read) (token : Token) (cursor : Cursor) :
    Parallel first second cursor
      (readStart limit profile read token (cursor.before first))
      (readStart limit profile read token (cursor.before second)) := by
  unfold readStart
  split
  · exact parallel_answer _ cursor
  · exact .failure _ _ _
  · split
    · split
      · exact parallel_operand parallel _ cursor _
      · exact parallel_operand parallel _ cursor _
      · exact parallel_operand parallel _ cursor _
      · apply (parallel _ cursor).andThen
        intro inner after _
        exact parallel_closeGroup firstFinished secondFinished token.offset inner after
      · exact .failure _ _ _
    · exact .failure _ _ _

theorem parallel_readRest
    (steady : Steady levels read) (parallel : ReadsParallel first second read) (threshold : Nat) :
    ∀ (left : Measured) (cursor : Cursor),
      Parallel first second cursor
        (readRest limit profile read threshold left (cursor.before first))
        (readRest limit profile read threshold left (cursor.before second))
  | left, ⟨[], nesting, peak⟩ => by
      rw [readRest_of_closes left (Token.closes_of_finish threshold firstFinished),
        readRest_of_closes left (Token.closes_of_finish threshold secondFinished)]
      exact .success left (List.suffix_refl [])
  | left, ⟨token :: rest, nesting, peak⟩ => by
      by_cases binds : threshold < token.bindingPower
      · obtain ⟨op, kind⟩ := Token.exists_operator_of_bindingPower binds
        have grown :
            Parallel first second ⟨rest, nesting, peak⟩
              (readMore limit profile read token left (Cursor.before ⟨rest, nesting, peak⟩ first))
              (readMore limit profile read token left
                (Cursor.before ⟨rest, nesting, peak⟩ second)) :=
          parallel_readMore parallel kind left _
        rw [readRest_of_lt left steady rfl binds, readRest_of_lt left steady rfl binds]
        refine (grown.andThen ?_).mono (List.suffix_cons token rest)
        intro longer after remains
        -- The tokens ahead of the tails have become fewer.
        have fewer : after.rest.length ≤ rest.length := remains.length_le
        exact parallel_readRest steady parallel threshold longer after
      · have closes (tail : List Token) : Token.Closes threshold (token :: rest ++ tail) := by
          rw [List.cons_append, Token.closes_cons]
          exact Nat.not_lt.1 binds
        rw [readRest_of_closes left (closes first), readRest_of_closes left (closes second)]
        exact .success left (List.suffix_refl _)
termination_by _ cursor => cursor.rest.length
decreasing_by
  simp only [List.length_cons]
  omega

theorem parallel_readAbove
    (steady : Steady levels read) (parallel : ReadsParallel first second read)
    (threshold : Nat) (cursor : Cursor) :
    Parallel first second cursor
      (readAbove limit profile read threshold (cursor.before first))
      (readAbove limit profile read threshold (cursor.before second)) := by
  obtain ⟨ahead, nesting, peak⟩ := cursor
  cases ahead with
  | nil =>
      have ends (tail : List Token) (finished : ∀ token ∈ tail.head?, token.kind = .finish) :
          ∃ after,
            readAbove limit profile read threshold (Cursor.before ⟨[], nesting, peak⟩ tail) =
              (.error .unexpectedEnd, after) :=
        exists_readAbove_of_finished finished threshold
      obtain ⟨after, ended⟩ := ends first firstFinished
      obtain ⟨after', ended'⟩ := ends second secondFinished
      rw [ended, ended']
      exact .failure _ _ _
  | cons token rest =>
      have started :
          Parallel first second ⟨rest, nesting, peak⟩
            (readStart limit profile read token (Cursor.before ⟨rest, nesting, peak⟩ first))
            (readStart limit profile read token (Cursor.before ⟨rest, nesting, peak⟩ second)) :=
        parallel_readStart firstFinished secondFinished parallel token _
      rw [readAbove_eq_readRest rfl, readAbove_eq_readRest rfl]
      refine (started.andThen ?_).mono (List.suffix_cons token rest)
      intro left after _
      exact parallel_readRest firstFinished secondFinished steady parallel threshold left after

/-- At any number of levels the reader runs in parallel. -/
theorem readsParallel_readWithin (limit : Nat) (profile : Profile) :
    ∀ levels : Nat, ReadsParallel first second (readWithin limit profile levels)
  | 0, _, ⟨[], nesting, peak⟩ =>
      .tooDeep _ _
  | 0, _, ⟨token :: rest, nesting, peak⟩ =>
      .failure (.tooDeep token.offset) _ _
  | levels + 1, threshold, cursor => by
      have steady := steady_readWithin limit profile levels
      have parallel := readsParallel_readWithin limit profile levels
      have inside :
          Parallel first second cursor.enter
            (readAbove limit profile (readWithin limit profile levels) threshold
              (cursor.enter.before first))
            (readAbove limit profile (readWithin limit profile levels) threshold
              (cursor.enter.before second)) :=
        parallel_readAbove firstFinished secondFinished steady parallel threshold cursor.enter
      exact inside.leave

end Steps

/-- Tails that begin with the end, if with anything, make no difference but for the offset of an
error at the place where they begin. -/
theorem ofTokens_append_eq_or
    {first second : List Token} (profile : Profile) (tokens : List Token)
    (firstFinished : ∀ token ∈ first.head?, token.kind = .finish)
    (secondFinished : ∀ token ∈ second.head?, token.kind = .finish) :
    ofTokens profile (tokens ++ first) = ofTokens profile (tokens ++ second) ∨
      ofTokens profile (tokens ++ first) = .error (.tooDeep (Cursor.start first).offset) ∧
        ofTokens profile (tokens ++ second) = .error (.tooDeep (Cursor.start second).offset) := by
  have parallel :
      Parallel first second (.start tokens)
        (read profile 0 (.start (tokens ++ first))) (read profile 0 (.start (tokens ++ second))) :=
    readsParallel_readWithin firstFinished secondFinished maxDepth profile maxDepth 0
      (.start tokens)
  generalize finished : read profile 0 (.start (tokens ++ first)) = reading at parallel
  generalize finished' : read profile 0 (.start (tokens ++ second)) = reading' at parallel
  cases parallel with
  | failure error after after' =>
      left
      rw [ofTokens, ofTokens, finished, finished']
  | tooDeep after after' =>
      right
      rw [ofTokens, ofTokens, finished, finished']
      exact ⟨rfl, rfl⟩
  | @success result after remains =>
      left
      obtain ⟨ahead, nesting, peak⟩ := after
      cases ahead with
      | cons token rest =>
          rw [ofTokens, ofTokens, finished, finished']
          rfl
      | nil =>
          -- The tails stand where the expression ends, and both accept it.
          have accepted : ofTokens profile (tokens ++ first) = .ok result.expr :=
            ofTokens_eq_ok_iff.2 ⟨result, _, finished, rfl, firstFinished⟩
          have accepted' : ofTokens profile (tokens ++ second) = .ok result.expr :=
            ofTokens_eq_ok_iff.2 ⟨result, _, finished', rfl, secondFinished⟩
          rw [accepted, accepted']

/-- What comes behind the first end is of no account, whether the tokens before it form an
expression or not. Without an end the same tree or the same error comes out, except that where
the tokens end at the deepest nesting there is no offset to name. -/
theorem ofTokens_append_finish
    {finish : Token} (profile : Profile) (tokens : List Token) (isFinish : finish.kind = .finish) :
    (∀ rest,
      ofTokens profile (tokens ++ [finish] ++ rest) = ofTokens profile (tokens ++ [finish])) ∧
    (ofTokens profile tokens = ofTokens profile (tokens ++ [finish]) ∨
      ofTokens profile tokens = .error (.tooDeep 0) ∧
        ofTokens profile (tokens ++ [finish]) = .error (.tooDeep finish.offset)) := by
  have ends (rest : List Token) : ∀ token ∈ (finish :: rest).head?, token.kind = .finish := by
    intro token ahead
    rw [List.head?_cons, Option.mem_some_iff] at ahead
    rw [← ahead]
    exact isFinish
  have nothing : ∀ token ∈ ([] : List Token).head?, token.kind = .finish := by
    simp
  constructor
  · intro rest
    rw [List.append_assoc, List.singleton_append]
    -- Both tails begin with the same token, so there is one offset only.
    rcases ofTokens_append_eq_or profile tokens (ends rest) (ends []) with same | ⟨deep, deep'⟩
    · exact same
    · exact deep.trans deep'.symm
  · have compared := ofTokens_append_eq_or profile tokens nothing (ends [])
    rw [List.append_nil] at compared
    exact compared

/-- After as many `not` as there are levels, the one error has the offset of the end and the other
has none to name. -/
theorem ofTokens_append_finish_tooDeep :
    let negations := List.replicate maxDepth (⟨.operator .not, "not", 0⟩ : Token)
    let finish : Token := ⟨.finish, "", 1024⟩
    let literal : Token := ⟨.literal, "A", 1025⟩
    finish.kind = .finish ∧
      ofTokens .substring negations = .error (.tooDeep 0) ∧
      ofTokens .substring (negations ++ [finish]) = .error (.tooDeep 1024) ∧
      ofTokens .substring (negations ++ [finish] ++ [literal]) = .error (.tooDeep 1024) := by
  intro negations finish literal
  have isFinish : finish.kind = .finish := rfl
  have unmarked : ofTokens .substring negations = .error (.tooDeep 0) := by
    decide +kernel
  have marked : ofTokens .substring (negations ++ [finish]) = .error (.tooDeep 1024) := by
    decide +kernel
  have behind := (ofTokens_append_finish .substring negations isFinish).1 [literal]
  exact ⟨isFinish, unmarked, marked, behind.trans marked⟩

end Expr

end CatalogFilter
