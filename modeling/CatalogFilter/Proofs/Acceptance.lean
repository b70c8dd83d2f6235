import CatalogFilter.Proofs.ReaderCompleteness
import CatalogFilter.Proofs.Runs

/-!
# Which tokens form an expression

The reader accepts exactly the expressions of the grammar that keep both bounds, and it refuses
the ones that exceed a bound as too deep. The grammar itself is unambiguous: a derivation leaves
the reader no choice, and the reader gives one answer.
-/

namespace CatalogFilter

namespace Token

theorem beforeFinish_append
    {tokens rest : List Token}
    (unfinished : ∀ token ∈ tokens, token.kind ≠ .finish)
    (finished : ∀ token ∈ rest.head?, token.kind = .finish) :
    beforeFinish (tokens ++ rest) = tokens := by
  apply takeWhile_run
  · intro token member
    simpa using unfinished token member
  · intro token ahead
    simpa using finished token ahead

theorem exists_rest_beforeFinish (tokens : List Token) :
    ∃ rest,
      tokens = beforeFinish tokens ++ rest ∧
        ∀ token ∈ rest.head?, token.kind = .finish := by
  refine ⟨tokens.dropWhile fun token => token.kind ≠ .finish, ?_, ?_⟩
  · exact List.takeWhile_append_dropWhile.symm
  · intro token ahead
    have failed := of_mem_head?_dropWhile tokens token ahead
    simpa using failed

theorem closes_of_finish
    {rest : List Token} (threshold : Nat)
    (finished : ∀ token ∈ rest.head?, token.kind = .finish) :
    Closes threshold rest := by
  intro token ahead
  simp [bindingPower, finished token ahead]

end Token

namespace Derives

variable {profile : Profile} {tokens : List Token} {left right : Expr}
variable {leftNesting rightNesting : Nat}

theorem arrives_start
    {limit : Nat} (positive : 0 < limit) (levels : Nat)
    (derivation : Derives profile .expression tokens left leftNesting)
    {rest : List Token}
    (finished : ∀ token ∈ rest.head?, token.kind = .finish) :
    Expr.Arrives limit levels
      (Expr.readWithin limit profile levels 0 (.start (tokens ++ rest)))
      Expr.halt left leftNesting rest := by
  have readable := Expr.readable_of_derives positive derivation
  have within : Phrase.expression.Within 0 := by
    simp [Phrase.Within, Operator.bindingPower]
  apply readable.arrives_readWithin derivation.nesting_pos levels within rfl
  · exact Token.closes_of_finish _ finished
  · exact Token.closes_of_finish _ finished

theorem nesting_le
    (first : Derives profile .expression tokens left leftNesting)
    (second : Derives profile .expression tokens right rightNesting) :
    leftNesting ≤ rightNesting := by
  -- Read with room for the second derivation and no more.
  have positive : 0 < max left.depth right.depth := by
    have := left.depth_pos
    omega
  have finished : ∀ token ∈ ([] : List Token).head?, token.kind = .finish := by
    simp
  cases first.arrives_start positive rightNesting finished with
  | reached _ within _ _ _ =>
      exact within
  | tooDeep offset _ _ refused =>
      cases second.arrives_start positive rightNesting finished with
      | reached _ _ _ _ arrived =>
          rw [arrived, Expr.halt] at refused
          cases refused
      | tooDeep _ _ exceeds _ =>
          omega

theorem nesting_unique
    (first : Derives profile .expression tokens left leftNesting)
    (second : Derives profile .expression tokens right rightNesting) :
    leftNesting = rightNesting := by
  apply Nat.le_antisymm
  · exact first.nesting_le second
  · exact second.nesting_le first

/-- No tokens have two readings in the grammar. -/
theorem tree_unique
    (first : Derives profile .expression tokens left leftNesting)
    (second : Derives profile .expression tokens right rightNesting) :
    left = right := by
  -- With room for both, one reading gives both trees.
  have positive : 0 < max left.depth right.depth := by
    have := left.depth_pos
    omega
  have finished : ∀ token ∈ ([] : List Token).head?, token.kind = .finish := by
    simp
  have same : leftNesting = rightNesting := first.nesting_unique second
  cases first.arrives_start positive leftNesting finished with
  | tooDeep _ _ exceeds _ =>
      omega
  | reached _ _ _ _ arrived =>
      cases second.arrives_start positive leftNesting finished with
      | tooDeep _ _ exceeds _ =>
          omega
      | reached _ _ _ _ secondArrived =>
          rw [arrived] at secondArrived
          cases secondArrived
          rfl

end Derives

namespace Expr

variable {profile : Profile} {tokens : List Token} {expr : Expr} {nesting : Nat}

/-- Acceptance is a reading that ends where the query does. -/
theorem ofTokens_eq_ok_iff :
    ofTokens profile tokens = .ok expr ↔
      ∃ result cursor,
        read profile 0 (.start tokens) = (.ok result, cursor) ∧
          result.expr = expr ∧
          ∀ token ∈ cursor.rest.head?, token.kind = .finish := by
  unfold ofTokens
  generalize read profile 0 (.start tokens) = reading
  obtain ⟨answer, after⟩ := reading
  cases answer with
  | error error =>
      constructor
      · intro accepted
        cases accepted
      · rintro ⟨_, _, same, _⟩
        cases same
  | ok found =>
      constructor
      · intro accepted
        refine ⟨found, after, rfl, ?_⟩
        cases ahead : after.rest with
        | nil =>
            simpa [ahead] using accepted
        | cons token others =>
            by_cases finished : token.kind = .finish
            · simpa [ahead, finished] using accepted
            · simp [ahead, finished] at accepted
      · rintro ⟨_, _, same, rfl, finished⟩
        cases same
        cases ahead : after.rest with
        | nil =>
            simp only [ahead]
        | cons token others =>
            have last : token.kind = .finish := by
              apply finished
              simp [ahead]
            simp only [ahead, last, if_true]

/-- An expression of the grammar is accepted within bounds and is too deep beyond
them. -/
theorem ofTokens_of_derives
    (derivation :
      Derives profile .expression (Token.beforeFinish tokens) expr nesting) :
    (expr.depth ≤ maxDepth ∧ nesting ≤ maxDepth ∧
        ofTokens profile tokens = .ok expr) ∨
      ((maxDepth < expr.depth ∨ maxDepth < nesting) ∧
        ∃ offset, ofTokens profile tokens = .error (.tooDeep offset)) := by
  obtain ⟨rest, split, finished⟩ := Token.exists_rest_beforeFinish tokens
  have positive : 0 < maxDepth := by decide
  have outcome := derivation.arrives_start positive maxDepth finished
  rw [← split] at outcome
  cases outcome with
  | reached cursor within shallow ahead arrived =>
      have accepted : ofTokens profile tokens = .ok expr := by
        rw [ofTokens_eq_ok_iff]
        exact ⟨_, cursor, arrived, rfl, ahead ▸ finished⟩
      exact .inl ⟨shallow, within, accepted⟩
  | tooDeep offset cursor exceeds refused =>
      have start :
          read profile 0 (.start tokens) =
            readWithin maxDepth profile maxDepth 0 (.start tokens) :=
        rfl
      have failed : ofTokens profile tokens = .error (.tooDeep offset) := by
        rw [ofTokens, start, refused]
      exact .inr ⟨exceeds.symm, offset, failed⟩

theorem derives_of_ofTokens
    (accepted : ofTokens profile tokens = .ok expr) :
    ∃ nesting,
      Derives profile .expression (Token.beforeFinish tokens) expr nesting ∧
        expr.depth ≤ maxDepth ∧ nesting ≤ maxDepth := by
  obtain ⟨result, cursor, finished, rfl, last⟩ := ofTokens_eq_ok_iff.1 accepted
  have positive : 0 < maxDepth := by decide
  obtain ⟨phrase, nesting, split, derivation, within, _, shallow⟩ :=
    sound_readWithin positive profile _ _ _ _ _ finished
  have whole : tokens = phrase ++ cursor.rest := split
  have before : Token.beforeFinish tokens = phrase := by
    rw [whole]
    exact Token.beforeFinish_append derivation.kind_ne_finish last
  rw [before]
  exact ⟨nesting, derivation, shallow, within⟩

/-- The reader and the grammar agree. Tokens are accepted exactly as the expression that they
denote in the grammar, if it keeps both bounds; they denote at most one; and an expression that
exceeds a bound is refused as too deep. -/
theorem ofTokens_agrees_with_grammar (profile : Profile) (tokens : List Token) :
    (∀ expr,
      ofTokens profile tokens = .ok expr ↔
        ∃ nesting,
          Derives profile .expression (Token.beforeFinish tokens) expr nesting ∧
            expr.depth ≤ maxDepth ∧ nesting ≤ maxDepth) ∧
    (∀ left right leftNesting rightNesting,
      Derives profile .expression tokens left leftNesting →
        Derives profile .expression tokens right rightNesting →
          left = right ∧ leftNesting = rightNesting) ∧
    (∀ expr nesting,
      Derives profile .expression (Token.beforeFinish tokens) expr nesting →
        maxDepth < expr.depth ∨ maxDepth < nesting →
          ∃ offset, ofTokens profile tokens = .error (.tooDeep offset)) := by
  refine ⟨?_, ?_, ?_⟩
  · intro expr
    constructor
    · exact derives_of_ofTokens
    · rintro ⟨nesting, derivation, shallow, within⟩
      rcases ofTokens_of_derives derivation with ⟨_, _, accepted⟩ | ⟨exceeds, _⟩
      · exact accepted
      · omega
  · intro left right leftNesting rightNesting first second
    exact ⟨first.tree_unique second, first.nesting_unique second⟩
  · intro expr nesting derivation exceeds
    rcases ofTokens_of_derives derivation with ⟨shallow, within, _⟩ | ⟨_, refused⟩
    · omega
    · exact refused

end Expr

end CatalogFilter
