import CatalogFilter.Proofs.Recompilation

/-!
# Queries of one check or one comparison

A word of bare characters stands for itself unless it is reserved, so a query that checks for a word
or compares two words is written with these words as they are, and it compiles to a tree of one
operator. No bound on depth is in the way.
-/

namespace CatalogFilter

/-- A literal that needs no quotes: bare characters that spell no operator. -/
structure IsBareWord (word : String) : Prop where
  nonempty : word ≠ ""
  bare : ∀ c ∈ word.toList, isBare c = true
  unreserved : word ∉ reservedWords

theorem isBareWord_iff {word : String} :
    IsBareWord word ↔ word ≠ "" ∧ word.toList.all isBare = true ∧ word ∉ reservedWords := by
  rw [List.all_eq_true]
  constructor
  · intro isWord
    exact ⟨isWord.nonempty, isWord.bare, isWord.unreserved⟩
  · rintro ⟨nonempty, bare, unreserved⟩
    exact ⟨nonempty, bare, unreserved⟩

instance (word : String) : Decidable (IsBareWord word) :=
  decidable_of_iff' _ isBareWord_iff

namespace IsBareWord

variable {word : String}

theorem isLiteralText (isWord : IsBareWord word) : IsLiteralText word :=
  ⟨isWord.nonempty, fun c member => isQuotable_of_isBare (isWord.bare c member)⟩

theorem needsQuotes_eq_false (isWord : IsBareWord word) : needsQuotes word = false := by
  have noneSpaced : ∀ c ∈ word.toList, ¬ (c = ' ' ∨ c = '/') := by
    rintro c member (rfl | rfl)
    · exact absurd (isWord.bare _ member) (by decide)
    · exact absurd (isWord.bare _ member) (by decide)
  simpa [needsQuotes, isWord.unreserved] using noneSpaced

theorem render_literal (isWord : IsBareWord word) : (Expr.literal word).render = word := by
  rw [Expr.render, isWord.needsQuotes_eq_false]
  rfl

/-- A word is written for the literal that it is. -/
theorem written (isWord : IsBareWord word) (profile : Profile) :
    Written profile word.toList .operand (.literal word) 1 := by
  have literal : Written profile (Expr.literal word).render.toList .operand (.literal word) 1 :=
    .literal isWord.isLiteralText
  rwa [isWord.render_literal] at literal

end IsBareWord

namespace Query

variable {profile : Profile} {op : Operator}

/-- A check for a word is a query. -/
theorem compile_containment
    {word : String} (containment : op = .has ∨ op = .lacks)
    (supported : profile.supports op = true) (isWord : IsBareWord word) :
    compile profile (op.symbol ++ " " ++ word) =
      .ok ⟨op.symbol ++ " " ++ word, profile, .unary op (.literal word)⟩ := by
  have written := Written.unary supported (isWord.written profile) (.containment containment)
  have spelled :
      (op.symbol ++ " " ++ word).toList = op.symbol.toList ++ [' '] ++ word.toList := by
    simp
  rw [← spelled] at written
  rcases compile_of_written (written.imp .expression_of_primary) with
    ⟨_, _, compiled⟩ | ⟨exceeds, _⟩
  · exact compiled
  · simp [Expr.depth, maxDepth] at exceeds

/-- A comparison of two words is a query. -/
theorem compile_comparison
    {left right : String} (comparison : op.isComparison = true)
    (supported : profile.supports op = true)
    (leftWord : IsBareWord left) (rightWord : IsBareWord right) :
    compile profile (left ++ " " ++ op.symbol ++ " " ++ right) =
      .ok ⟨left ++ " " ++ op.symbol ++ " " ++ right, profile,
        .binary op (.literal left) (.literal right)⟩ := by
  have written :=
    Written.binary supported (leftWord.written profile) (rightWord.written profile)
      (.comparison comparison)
  have spelled :
      (left ++ " " ++ op.symbol ++ " " ++ right).toList =
        left.toList ++ ([' '] ++ (op.symbol.toList ++ [' '] ++ right.toList)) := by
    simp
  rw [← spelled] at written
  rcases compile_of_written (written.imp .ofComparison) with ⟨_, _, compiled⟩ | ⟨exceeds, _⟩
  · exact compiled
  · simp [Expr.depth, maxDepth] at exceeds

end Query

end CatalogFilter
