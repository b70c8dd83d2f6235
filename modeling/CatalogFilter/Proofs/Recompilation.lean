import CatalogFilter.Proofs.Rendering

/-!
# Compiling a query from its written form

The tree of a compiled query is well formed, so its written form can only read back as the same
tree or be too deep. It is too deep for some queries: a chain of `not` costs one level in the query
and two in its written form, where each link stands in parentheses.
-/

namespace CatalogFilter

namespace Query

/-- A text that is written for an expression compiles to it within bounds and is too deep beyond
them. -/
theorem compile_of_written
    {profile : Profile} {source : String} {root : Expr} {nesting : Nat}
    (written : Written profile source.toList .expression root nesting) :
    root.depth ≤ maxDepth ∧ nesting ≤ maxDepth ∧
        compile profile source = .ok ⟨source, profile, root⟩ ∨
      (maxDepth < root.depth ∨ maxDepth < nesting) ∧
        ∃ offset, compile profile source = .error (.parse (.tooDeep offset)) := by
  obtain ⟨tokens, scanned, outcome⟩ := written.exists_scan
  rcases outcome with ⟨shallow, within, accepted⟩ | ⟨exceeds, offset, refused⟩
  · exact .inl ⟨shallow, within, compile_eq_ok_iff.2 ⟨tokens, root, scanned, accepted, rfl⟩⟩
  · refine .inr ⟨exceeds, offset, ?_⟩
    rw [compile, scanned]
    simp only [refused]

/-- The written form of a well-formed tree compiles to this tree or is too deep. -/
theorem compile_render_of_wellFormed
    {profile : Profile} {root : Expr} (wellFormed : root.WellFormed profile) :
    root.writtenNesting ≤ maxDepth ∧
        compile profile root.render = .ok ⟨root.render, profile, root⟩ ∨
      maxDepth < root.writtenNesting ∧
        ∃ offset, compile profile root.render = .error (.parse (.tooDeep offset)) := by
  have written := wellFormed.written.imp .expression_of_primary
  have shallow := root.depth_le_writtenNesting
  rcases compile_of_written written with ⟨_, within, compiled⟩ | ⟨exceeds, refused⟩
  · exact .inl ⟨within, compiled⟩
  · exact .inr ⟨by omega, refused⟩

/-- The written form of a compiled query compiles to the same tree exactly when it nests no deeper
than the bound. Otherwise it is too deep. -/
theorem compile_render_root
    {profile : Profile} {source : String} {query : Query}
    (compiled : compile profile source = .ok query) :
    ((∃ again, compile profile query.root.render = .ok again ∧ again.root = query.root) ↔
        query.root.writtenNesting ≤ maxDepth) ∧
      (maxDepth < query.root.writtenNesting →
        ∃ offset, compile profile query.root.render = .error (.parse (.tooDeep offset))) := by
  have wellFormed := wellFormed_root compiled
  rcases compile_render_of_wellFormed wellFormed with
    ⟨within, again⟩ | ⟨exceeds, offset, refused⟩
  · constructor
    · exact iff_of_true ⟨_, again, rfl⟩ within
    · intro exceeds
      omega
  · constructor
    · apply iff_of_false
      · rintro ⟨again, recompiled, _⟩
        rw [refused] at recompiled
        cases recompiled
      · omega
    · intro _
      exact ⟨offset, refused⟩

/-! ## A chain of negations -/

/-- `not` so many times before a query. -/
def negated : Nat → String → String
  | 0, source => source
  | times + 1, source => "not " ++ negated times source

/-- The tree under so many negations. -/
def negatedRoot : Nat → Expr → Expr
  | 0, root => root
  | times + 1, root => .unary .not (negatedRoot times root)

theorem depth_negatedRoot (times : Nat) (root : Expr) :
    (negatedRoot times root).depth = times + root.depth := by
  induction times with
  | zero =>
      simp [negatedRoot]
  | succ times inductionHypothesis =>
      simp only [negatedRoot, Expr.depth, inductionHypothesis]
      omega

theorem writtenNesting_negatedRoot (times : Nat) (root : Expr) :
    (negatedRoot times root).writtenNesting = 2 * times + root.writtenNesting := by
  induction times with
  | zero =>
      simp [negatedRoot]
  | succ times inductionHypothesis =>
      simp only [negatedRoot, Expr.writtenNesting, inductionHypothesis]
      omega

theorem written_negated
    {profile : Profile} {source : String} {root : Expr} {nesting : Nat}
    (supported : profile.supports .not = true)
    (written : Written profile source.toList .primary root nesting) (times : Nat) :
    Written profile (negated times source).toList .primary (negatedRoot times root)
      (nesting + times) := by
  induction times with
  | zero =>
      exact written
  | succ times inductionHypothesis =>
      have chained := Written.unary supported inductionHypothesis .negation
      simpa [negated, negatedRoot, Operator.symbol, Nat.add_assoc] using chained

theorem compile_negated
    {profile : Profile} {source : String} {root : Expr} {nesting : Nat}
    (supported : profile.supports .not = true)
    (written : Written profile source.toList .primary root nesting) (times : Nat)
    (shallow : times + root.depth ≤ maxDepth) (within : nesting + times ≤ maxDepth) :
    compile profile (negated times source) =
      .ok ⟨negated times source, profile, negatedRoot times root⟩ := by
  have chain := (written_negated supported written times).imp .expression_of_primary
  rcases compile_of_written chain with ⟨_, _, compiled⟩ | ⟨exceeds, _⟩
  · exact compiled
  · rw [depth_negatedRoot] at exceeds
    omega

theorem written_has :
    Written .substring "has A".toList .primary (.unary .has (.literal "A")) 2 := by
  have isText : IsLiteralText "A" := by decide
  have supported : Profile.substring.supports .has = true := rfl
  exact .unary supported (.literal isText) (.containment (.inl rfl))

/-- With 126 negations the written form still compiles to the same tree. -/
theorem compile_render_root_negated :
    compile .substring (negated 126 "has A") =
        .ok ⟨negated 126 "has A", .substring, negatedRoot 126 (.unary .has (.literal "A"))⟩ ∧
      ∃ again,
        compile .substring (negatedRoot 126 (.unary .has (.literal "A"))).render = .ok again ∧
          again.root = negatedRoot 126 (.unary .has (.literal "A")) := by
  have compiled := compile_negated rfl written_has 126 (by decide) (by decide)
  refine ⟨compiled, (compile_render_root compiled).1.2 ?_⟩
  rw [writtenNesting_negatedRoot]
  decide

/-- With 127 negations the query compiles and its written form does not. -/
theorem compile_render_negated_tooDeep :
    compile .substring (negated 127 "has A") =
        .ok ⟨negated 127 "has A", .substring, negatedRoot 127 (.unary .has (.literal "A"))⟩ ∧
      ∃ offset,
        compile .substring (negatedRoot 127 (.unary .has (.literal "A"))).render =
          .error (.parse (.tooDeep offset)) := by
  have compiled := compile_negated rfl written_has 127 (by decide) (by decide)
  refine ⟨compiled, ?_⟩
  have wellFormed := wellFormed_root compiled
  rcases compile_render_of_wellFormed wellFormed with ⟨within, _⟩ | ⟨_, refused⟩
  · simp only [writtenNesting_negatedRoot, Expr.writtenNesting, maxDepth] at within
    omega
  · exact refused

end Query

end CatalogFilter
