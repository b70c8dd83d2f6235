import CatalogFilter.Filter
import CatalogFilter.Proofs.CacheHistory
import CatalogFilter.Proofs.InTurn
import Mathlib.Data.List.TakeWhile

/-!
# Compiling filters against a cache

A filter compiles as if there were no cache: the same clauses, the same trees, and the same error
for the first clause that does not compile. The cache adds the identities of the trees. It keeps
what it held, and it gains the keys of the clauses that came before that one; whoever asks it for
these keys again gets the trees that the filter has.
-/

namespace CatalogFilter

/-! ## What a filter is apart from the cache -/

namespace Clause

/-- The key under which the query of a clause is stored. -/
def key (clause : Clause) : Cache.Key :=
  ⟨clause.query.profile, clause.query.source⟩

/-- A clause apart from the identity of its query. -/
def plain (clause : Clause) : String × Query :=
  (clause.field, clause.query)

/-- The query of the clause is the very one that the cache has. -/
def StoredIn (cache : Cache) (clause : Clause) : Prop :=
  cache.lookup clause.key = some clause.stored

end Clause

/-- A filter apart from the identities of its queries. -/
structure PlainFilter where
  name : String
  mode : MatchMode
  clauses : List (String × Query)
deriving DecidableEq, Repr

namespace Filter

def plain (filter : Filter) : PlainFilter :=
  ⟨filter.name, filter.mode, filter.clauses.map Clause.plain⟩

def StoredIn (cache : Cache) (filter : Filter) : Prop :=
  ∀ clause ∈ filter.clauses, clause.StoredIn cache

end Filter

namespace ClauseSpec

/-- What a clause asks a cache for. -/
def key (spec : ClauseSpec) : Cache.Key :=
  ⟨spec.profile, spec.query⟩

def compiles (spec : ClauseSpec) : Bool :=
  spec.key.compile.isOk

/-- Compiles a clause without a cache. -/
def compilePlain (name : String) (index : Nat) (spec : ClauseSpec) :
    Except CompileError (String × Query) :=
  match spec.key.compile with
  | .error error => .error (.clause index name spec.query error)
  | .ok query => .ok (spec.field, query)

theorem compiles_of_ok
    {spec : ClauseSpec} {query : Query} (compiled : spec.key.compile = .ok query) :
    spec.compiles = true := by
  rw [compiles, compiled]
  rfl

theorem compiles_of_error
    {spec : ClauseSpec} {error : EngineError} (failed : spec.key.compile = .error error) :
    spec.compiles = false := by
  rw [compiles, failed]
  rfl

end ClauseSpec

/-- Compiles clauses in order without a cache; `index` is the number of the first one. -/
def ClauseSpec.compileAllPlain (name : String) (index : Nat) (specs : List ClauseSpec) :
    Except CompileError (List (String × Query)) :=
  (specs.zipIdx index).mapM fun numbered => numbered.1.compilePlain name numbered.2

/-- Compiles a filter without a cache. -/
def FilterSpec.compilePlain (spec : FilterSpec) (name : String) :
    Except CompileError PlainFilter :=
  (ClauseSpec.compileAllPlain name 1 spec.clauses).map fun clauses => ⟨name, spec.mode, clauses⟩

/-- The keys of the clauses that come before the first that does not compile. -/
def compiledKeys (specs : List ClauseSpec) : List Cache.Key :=
  (specs.takeWhile ClauseSpec.compiles).map ClauseSpec.key

namespace Cache

/-- A cache keeps what it held and gains these keys. What it holds in the end is the compilation of
its own key. -/
structure GrowsBy (keys : List Key) (before after : Cache) : Prop where
  kept : ∀ {key : Key} {stored : Stored},
    before.lookup key = some stored → after.lookup key = some stored
  found : ∀ key : Key,
    (∃ stored, after.lookup key = some stored) ↔
      (∃ stored, before.lookup key = some stored) ∨ key ∈ keys
  sound : after.Sound

namespace GrowsBy

theorem refl {cache : Cache} (sound : cache.Sound) : GrowsBy [] cache cache where
  kept := id
  found := by simp
  sound := sound

theorem trans
    {keys others : List Key} {before middle after : Cache}
    (first : GrowsBy keys before middle) (second : GrowsBy others middle after) :
    GrowsBy (keys ++ others) before after where
  kept held := second.kept (first.kept held)
  found key := by
    rw [second.found, first.found, List.mem_append, or_assoc]
  sound := second.sound

/-- Remembering a query gains its key. -/
theorem remember
    {cache : Cache} {key : Key} {query : Query} (sound : cache.Sound)
    (compiled : key.compile = .ok query) :
    GrowsBy [key] cache (cache.remember key query).2 where
  kept held := lookup_remember_of_lookup held key query
  found other := by
    by_cases same : other = key
    · subst same
      rw [lookup_remember_self]
      simp
    · rw [lookup_remember_of_ne cache query same]
      simp [same]
  sound := sound.remember compiled

end GrowsBy

end Cache

/-- A clause has the key that it was compiled from. -/
theorem Clause.key_of_compile
    {key : Cache.Key} {query : Query} (compiled : key.compile = .ok query) (field : String)
    {stored : Cache.Stored} (same : stored.query = query) :
    Clause.key ⟨field, stored⟩ = key := by
  obtain ⟨sameSource, sameProfile⟩ := Cache.Key.source_profile_of_compile compiled
  rw [Clause.key, Clause.query, same, sameSource, sameProfile]

theorem Clause.StoredIn.mono
    {keys : List Cache.Key} {before after : Cache} {clause : Clause}
    (storedIn : clause.StoredIn before) (grows : Cache.GrowsBy keys before after) :
    clause.StoredIn after :=
  grows.kept storedIn

theorem Filter.StoredIn.mono
    {keys : List Cache.Key} {before after : Cache} {filter : Filter}
    (storedIn : filter.StoredIn before) (grows : Cache.GrowsBy keys before after) :
    filter.StoredIn after :=
  fun clause member => (storedIn clause member).mono grows

/-- In one cache a clause has its identity from what it is. -/
theorem Clause.eq_of_plain_eq
    {cache : Cache} {first second : Clause} (firstStored : first.StoredIn cache)
    (secondStored : second.StoredIn cache) (same : first.plain = second.plain) :
    first = second := by
  obtain ⟨field, stored⟩ := first
  obtain ⟨otherField, otherStored⟩ := second
  obtain ⟨rfl, sameQuery⟩ := Prod.mk.inj same
  have sameKey : Clause.key ⟨field, stored⟩ = Clause.key ⟨field, otherStored⟩ := by
    rw [key, key, sameQuery]
  have found : cache.lookup (Clause.key ⟨field, otherStored⟩) = some stored := by
    rw [← sameKey]
    exact firstStored
  have sameStored := found.symm.trans secondStored
  rw [Option.some.inj sameStored]

/-- In one cache two filters that are the same in all else have the same trees. -/
theorem Filter.eq_of_plain_eq
    {cache : Cache} {first second : Filter} (firstStored : first.StoredIn cache)
    (secondStored : second.StoredIn cache) (same : first.plain = second.plain) :
    first = second := by
  obtain ⟨name, mode, clauses⟩ := first
  obtain ⟨otherName, otherMode, others⟩ := second
  simp only [plain, PlainFilter.mk.injEq] at same
  obtain ⟨rfl, rfl, sameClauses⟩ := same
  suffices equal : clauses = others by rw [equal]
  induction clauses generalizing others with
  | nil =>
      exact (List.map_eq_nil_iff.1 sameClauses.symm).symm
  | cons clause clauses inductionHypothesis =>
      obtain ⟨other, rest, rfl, sameClause, sameRest⟩ := List.map_eq_cons_iff.1 sameClauses.symm
      obtain ⟨clauseStored, clausesStored⟩ := List.forall_mem_cons.1 firstStored
      obtain ⟨otherStored, restStored⟩ := List.forall_mem_cons.1 secondStored
      rw [Clause.eq_of_plain_eq clauseStored otherStored sameClause.symm,
        inductionHypothesis clausesStored rest sameRest.symm restStored]

/-- A call answers as it would without a cache, apart from identities. The cache grows by these
keys, and the queries of what is answered are its own. -/
structure AnswersAs {α β : Type}
    (plain : α → β) (StoredIn : Cache → α → Prop) (expected : Except CompileError β)
    (keys : List Cache.Key) (before : Cache) (answer : Except CompileError α × Cache) : Prop where
  same : answer.1.map plain = expected
  grows : Cache.GrowsBy keys before answer.2
  stored : ∀ value, answer.1 = .ok value → StoredIn answer.2 value

namespace AnswersAs

variable {α β : Type} {plain : α → β} {StoredIn : Cache → α → Prop}
  {expected : Except CompileError β} {keys : List Cache.Key} {before : Cache}
  {answer : Except CompileError α × Cache}

theorem exists_ok_iff (answers : AnswersAs plain StoredIn expected keys before answer) :
    (∃ value, answer.1 = .ok value) ↔ ∃ value, expected = .ok value := by
  rw [← answers.same]
  cases answer.1 <;> simp [Except.map]

theorem expected_eq_of_ok (answers : AnswersAs plain StoredIn expected keys before answer)
    {value : α} (answered : answer.1 = .ok value) :
    expected = .ok (plain value) := by
  rw [← answers.same, answered]
  rfl

theorem error_iff (answers : AnswersAs plain StoredIn expected keys before answer)
    {error : CompileError} :
    answer.1 = .error error ↔ expected = .error error := by
  rw [← answers.same, map_eq_error_iff]

end AnswersAs

/-! ## Clauses without a cache -/

namespace ClauseSpec

variable {spec : ClauseSpec} {query : Query} {error : EngineError}

theorem compileAllPlain_of_ok
    (compiled : spec.key.compile = .ok query) (name : String) (index : Nat)
    (specs : List ClauseSpec) :
    compileAllPlain name index (spec :: specs) =
      (compileAllPlain name (index + 1) specs).map ((spec.field, query) :: ·) := by
  rw [compileAllPlain, List.zipIdx_cons, mapM_cons_of_ok]
  · rfl
  · rw [compilePlain, compiled]

theorem compileAllPlain_of_error
    (failed : spec.key.compile = .error error) (name : String) (index : Nat)
    (specs : List ClauseSpec) :
    compileAllPlain name index (spec :: specs) = .error (.clause index name spec.query error) := by
  rw [compileAllPlain, List.zipIdx_cons, mapM_cons_of_error]
  rw [compilePlain, failed]

theorem exists_compileAllPlain_eq_ok_iff
    (name : String) (index : Nat) {specs : List ClauseSpec} :
    (∃ clauses, compileAllPlain name index specs = .ok clauses) ↔
      ∀ spec ∈ specs, spec.compiles = true := by
  induction specs generalizing index with
  | nil =>
      exact iff_of_true ⟨[], rfl⟩ nofun
  | cons spec specs inductionHypothesis =>
      rw [List.forall_mem_cons, ← inductionHypothesis (index + 1)]
      cases compiled : spec.key.compile with
      | error error =>
          simp [compileAllPlain_of_error compiled, compiles_of_error compiled]
      | ok query =>
          simp [compileAllPlain_of_ok compiled, compiles_of_ok compiled, map_eq_ok_iff]

/-- The error is that of the first clause that does not compile, and it has the number of this
clause. -/
theorem exists_first_of_compileAllPlain
    {name : String} {index : Nat} {specs : List ClauseSpec} {error : CompileError}
    (failed : compileAllPlain name index specs = .error error) :
    ∃ done spec rest cause,
      specs = done ++ spec :: rest ∧ (∀ earlier ∈ done, earlier.compiles = true) ∧
        spec.key.compile = .error cause ∧
          error = .clause (index + done.length) name spec.query cause := by
  induction specs generalizing index with
  | nil =>
      cases failed
  | cons spec specs inductionHypothesis =>
      cases compiled : spec.key.compile with
      | error cause =>
          rw [compileAllPlain_of_error compiled] at failed
          cases failed
          exact ⟨[], spec, specs, cause, rfl, nofun, compiled, rfl⟩
      | ok query =>
          rw [compileAllPlain_of_ok compiled, map_eq_error_iff] at failed
          obtain ⟨done, other, rest, cause, rfl, succeeded, failedThere, named⟩ :=
            inductionHypothesis failed
          refine ⟨spec :: done, other, rest, cause, rfl, ?_, failedThere, ?_⟩
          · exact List.forall_mem_cons.2 ⟨compiles_of_ok compiled, succeeded⟩
          · rw [named, List.length_cons, Nat.add_right_comm, Nat.add_assoc]

end ClauseSpec

theorem compiledKeys_of_ok
    {spec : ClauseSpec} {query : Query} (compiled : spec.key.compile = .ok query)
    (specs : List ClauseSpec) :
    compiledKeys (spec :: specs) = [spec.key] ++ compiledKeys specs := by
  rw [compiledKeys, List.takeWhile_cons_of_pos (ClauseSpec.compiles_of_ok compiled)]
  rfl

theorem compiledKeys_of_error
    {spec : ClauseSpec} {error : EngineError} (failed : spec.key.compile = .error error)
    (specs : List ClauseSpec) :
    compiledKeys (spec :: specs) = [] := by
  rw [compiledKeys, List.takeWhile_cons_of_neg]
  · rfl
  · simp [ClauseSpec.compiles_of_error failed]

/-- After clauses that all compile, the keys of the others follow. -/
theorem compiledKeys_append_of_compiles
    {specs : List ClauseSpec} (compile : ∀ spec ∈ specs, spec.compiles = true)
    (others : List ClauseSpec) :
    compiledKeys (specs ++ others) = compiledKeys specs ++ compiledKeys others := by
  have all := List.takeWhile_eq_self_iff.2 compile
  rw [compiledKeys, List.takeWhile_append_of_pos compile, List.map_append, compiledKeys, all,
    compiledKeys]

/-- After a clause that does not compile nothing is compiled. -/
theorem compiledKeys_append_of_not_compiles
    {specs : List ClauseSpec} (fails : ¬ ∀ spec ∈ specs, spec.compiles = true)
    (others : List ClauseSpec) :
    compiledKeys (specs ++ others) = compiledKeys specs := by
  rw [compiledKeys, List.takeWhile_append, if_neg]
  · rfl
  · intro sameLength
    have all := (List.takeWhile_prefix ClauseSpec.compiles).eq_of_length sameLength
    exact fails (List.takeWhile_eq_self_iff.1 all)

theorem mem_compiledKeys_of_compiles
    {specs : List ClauseSpec} (compile : ∀ spec ∈ specs, spec.compiles = true)
    {spec : ClauseSpec} (member : spec ∈ specs) :
    spec.key ∈ compiledKeys specs := by
  rw [compiledKeys, List.takeWhile_eq_self_iff.2 compile]
  exact List.mem_map_of_mem member

/-! ## Clauses in turn -/

namespace FilterSpec

variable {cache : Cache} {name : String} {spec : ClauseSpec} {specs : List ClauseSpec}

theorem compileClauses_of_ok
    {query : Query} (sound : cache.Sound) (compiled : spec.key.compile = .ok query) (index : Nat)
    (specs : List ClauseSpec) :
    compileClauses name index (spec :: specs) cache =
      ((compileClauses name (index + 1) specs (cache.remember spec.key query).2).1.map
          (⟨spec.field, (cache.remember spec.key query).1⟩ :: ·),
        (compileClauses name (index + 1) specs (cache.remember spec.key query).2).2) := by
  rw [compileClauses, ← ClauseSpec.key, sound.getOrCompile_eq, compiled]
  simp only
  split
  · rename_i error after rest
    simp [rest, Except.map]
  · rename_i clauses after rest
    simp [rest, Except.map]

theorem compileClauses_of_error
    {error : EngineError} (sound : cache.Sound) (failed : spec.key.compile = .error error)
    (index : Nat) (specs : List ClauseSpec) :
    compileClauses name index (spec :: specs) cache =
      (.error (.clause index name spec.query error), cache) := by
  rw [compileClauses, ← ClauseSpec.key, sound.getOrCompile_eq, failed]

/-- Clauses are compiled as they would be without a cache. -/
theorem answersAs_compileClauses
    (sound : cache.Sound) (name : String) (index : Nat) (specs : List ClauseSpec) :
    AnswersAs (List.map Clause.plain)
      (fun cache clauses => ∀ clause ∈ clauses, clause.StoredIn cache)
      (ClauseSpec.compileAllPlain name index specs) (compiledKeys specs) cache
      (compileClauses name index specs cache) := by
  induction specs generalizing cache index with
  | nil =>
      exact ⟨rfl, .refl sound, by rintro _ ⟨⟩; nofun⟩
  | cons spec specs inductionHypothesis =>
      cases compiled : spec.key.compile with
      | error error =>
          rw [compileClauses_of_error sound compiled,
            ClauseSpec.compileAllPlain_of_error compiled, compiledKeys_of_error compiled]
          exact ⟨rfl, .refl sound, nofun⟩
      | ok query =>
          have kept := Cache.GrowsBy.remember sound compiled
          have rest := inductionHypothesis kept.sound (index + 1)
          have sameQuery := sound.query_remember compiled
          rw [compileClauses_of_ok sound compiled, ClauseSpec.compileAllPlain_of_ok compiled,
            compiledKeys_of_ok compiled]
          refine ⟨?_, kept.trans rest.grows, ?_⟩
          · rw [← rest.same, map_cons_map, Clause.plain, Clause.query, sameQuery]
          · intro clauses answered
            obtain ⟨others, restAnswered, rfl⟩ := map_eq_ok_iff.1 answered
            refine List.forall_mem_cons.2 ⟨?_, rest.stored others restAnswered⟩
            have sameKey := Clause.key_of_compile compiled spec.field sameQuery
            rw [Clause.StoredIn, sameKey]
            exact rest.grows.kept (Cache.lookup_remember_self cache spec.key query)

theorem compile_eq (spec : FilterSpec) (name : String) (cache : Cache) :
    spec.compile name cache =
      ((compileClauses name 1 spec.clauses cache).1.map (⟨name, spec.mode, ·⟩),
        (compileClauses name 1 spec.clauses cache).2) := by
  rw [compile]
  split
  · rename_i error after answered
    rw [answered]
    rfl
  · rename_i clauses after answered
    rw [answered]
    rfl

/-- A filter is compiled as it would be without a cache. -/
theorem answersAs_compile (sound : cache.Sound) (spec : FilterSpec) (name : String) :
    AnswersAs Filter.plain Filter.StoredIn (spec.compilePlain name)
      (compiledKeys spec.clauses) cache (spec.compile name cache) := by
  have clauses := answersAs_compileClauses sound name 1 spec.clauses
  rw [compile_eq]
  refine ⟨?_, clauses.grows, ?_⟩
  · rw [compilePlain, ← clauses.same]
    cases (compileClauses name 1 spec.clauses cache).1 <;> rfl
  · intro filter answered
    obtain ⟨compiled, compiledClauses, rfl⟩ := map_eq_ok_iff.1 answered
    exact clauses.stored compiled compiledClauses

theorem exists_compilePlain_eq_ok_iff (spec : FilterSpec) (name : String) :
    (∃ filter, spec.compilePlain name = .ok filter) ↔
      ∀ clause ∈ spec.clauses, clause.compiles = true := by
  rw [← ClauseSpec.exists_compileAllPlain_eq_ok_iff name 1, compilePlain]
  simp [map_eq_ok_iff]

theorem name_of_compilePlain {filter : PlainFilter} {spec : FilterSpec}
    (compiled : spec.compilePlain name = .ok filter) :
    filter.name = name := by
  obtain ⟨clauses, _, rfl⟩ := map_eq_ok_iff.1 compiled
  rfl

theorem name_of_compile {filter : Filter} {spec : FilterSpec}
    (compiled : (spec.compile name cache).1 = .ok filter) :
    filter.name = name := by
  rw [compile_eq] at compiled
  obtain ⟨clauses, _, rfl⟩ := map_eq_ok_iff.1 compiled
  rfl

/-! ## Caches that have all that is asked for -/

theorem compileClauses_of_found
    (found : ∀ spec ∈ specs, ∃ stored, cache.lookup spec.key = some stored)
    (name : String) (index : Nat) :
    (compileClauses name index specs cache).2 = cache := by
  induction specs generalizing index with
  | nil =>
      rfl
  | cons spec specs inductionHypothesis =>
      obtain ⟨⟨stored, first⟩, others⟩ := List.forall_mem_cons.1 found
      have rest := inductionHypothesis others (index + 1)
      rw [compileClauses, ← ClauseSpec.key, Cache.getOrCompile_of_lookup first]
      simp only
      split
      · rename_i error after answered
        rwa [answered] at rest
      · rename_i clauses after answered
        rwa [answered] at rest

theorem compile_of_found
    {spec : FilterSpec}
    (found : ∀ clause ∈ spec.clauses, ∃ stored, cache.lookup clause.key = some stored)
    (name : String) :
    (spec.compile name cache).2 = cache := by
  rw [compile_eq]
  exact compileClauses_of_found found name 1

end FilterSpec

end CatalogFilter
