import CatalogFilter.FilterFile
import CatalogFilter.Proofs.ClauseCompilation

/-!
# Named filters and their cache

The filters of a file are compiled in the order of their names, or one of them by name. Either way
each filter has the same clauses and the same trees, and the first that fails has the same error.
What a call answers is told by the file; the cache adds only which trees these are.
-/

namespace CatalogFilter.FilterFile

variable {cache : Cache} {name : String} {spec : FilterSpec} {table : Table FilterSpec}

/-- Compiles named specifications in order without a cache, up to the first that fails. -/
def compileAllPlain (table : Table FilterSpec) : Except CompileError (List PlainFilter) :=
  table.mapM fun named => named.2.compilePlain named.1

/-- The clauses of all specifications in order. -/
def clausesOf (table : Table FilterSpec) : List ClauseSpec :=
  table.flatMap fun named => named.2.clauses

theorem compileAllPlain_of_ok
    {filter : PlainFilter} (compiled : spec.compilePlain name = .ok filter)
    (table : Table FilterSpec) :
    compileAllPlain ((name, spec) :: table) = (compileAllPlain table).map (filter :: ·) := by
  rw [compileAllPlain, mapM_cons_of_ok]
  · rfl
  · exact compiled

theorem compileAllPlain_of_error
    {error : CompileError} (failed : spec.compilePlain name = .error error)
    (table : Table FilterSpec) :
    compileAllPlain ((name, spec) :: table) = .error error := by
  rw [compileAllPlain, mapM_cons_of_error]
  exact failed

/-! ## All filters in turn -/

theorem compileAll_of_ok
    {filter : Filter} (compiled : (spec.compile name cache).1 = .ok filter)
    (table : Table FilterSpec) :
    compileAll ((name, spec) :: table) cache =
      ((compileAll table (spec.compile name cache).2).1.map (filter :: ·),
        (compileAll table (spec.compile name cache).2).2) := by
  have answered : spec.compile name cache = (.ok filter, (spec.compile name cache).2) :=
    Prod.ext compiled rfl
  rw [compileAll, answered]
  simp only
  split
  · rename_i error after rest
    rw [rest]
    rfl
  · rename_i filters after rest
    rw [rest]
    rfl

theorem compileAll_of_error
    {error : CompileError} (failed : (spec.compile name cache).1 = .error error)
    (table : Table FilterSpec) :
    compileAll ((name, spec) :: table) cache = (.error error, (spec.compile name cache).2) := by
  have answered : spec.compile name cache = (.error error, (spec.compile name cache).2) :=
    Prod.ext failed rfl
  rw [compileAll, answered]

/-- All filters are compiled as they would be without a cache. -/
theorem answersAs_compileAll (sound : cache.Sound) (table : Table FilterSpec) :
    AnswersAs (List.map Filter.plain)
      (fun cache filters => ∀ filter ∈ filters, filter.StoredIn cache)
      (compileAllPlain table) (compiledKeys (clausesOf table)) cache (compileAll table cache) := by
  induction table generalizing cache with
  | nil =>
      exact ⟨rfl, .refl sound, by rintro _ ⟨⟩; nofun⟩
  | cons named table inductionHypothesis =>
      obtain ⟨name, spec⟩ := named
      have head := FilterSpec.answersAs_compile sound spec name
      have clauses : clausesOf ((name, spec) :: table) = spec.clauses ++ clausesOf table := rfl
      have compiles := spec.exists_compilePlain_eq_ok_iff name
      rw [clauses]
      cases answered : (spec.compile name cache).1 with
      | error error =>
          have failed := head.error_iff.1 answered
          rw [failed] at compiles
          rw [compileAll_of_error answered, compileAllPlain_of_error failed,
            compiledKeys_append_of_not_compiles (by simp [← compiles])]
          exact ⟨rfl, head.grows, nofun⟩
      | ok filter =>
          have plain := head.same
          rw [answered] at plain
          have rest := inductionHypothesis head.grows.sound
          rw [compileAll_of_ok answered, compileAllPlain_of_ok plain.symm,
            compiledKeys_append_of_compiles (compiles.1 ⟨_, plain.symm⟩)]
          refine ⟨?_, head.grows.trans rest.grows, ?_⟩
          · rw [map_cons_map, rest.same]
          · intro filters allAnswered
            obtain ⟨others, restAnswered, rfl⟩ := map_eq_ok_iff.1 allAnswered
            exact List.forall_mem_cons.2
              ⟨(head.stored filter answered).mono rest.grows, rest.stored others restAnswered⟩

theorem names_of_compileAll
    {filters : List Filter} (answered : (compileAll table cache).1 = .ok filters) :
    filters.map Filter.name = table.names := by
  induction table generalizing cache filters with
  | nil =>
      cases answered
      rfl
  | cons named table inductionHypothesis =>
      obtain ⟨name, spec⟩ := named
      cases compiled : (spec.compile name cache).1 with
      | error error =>
          rw [compileAll_of_error compiled] at answered
          cases answered
      | ok filter =>
          rw [compileAll_of_ok compiled] at answered
          obtain ⟨others, rest, rfl⟩ := map_eq_ok_iff.1 answered
          rw [List.map_cons, FilterSpec.name_of_compile compiled, inductionHypothesis rest]
          rfl

/-! ## One filter by name -/

variable {file : FilterFile}

/-- Compiles the filter called `name` without a cache. -/
def compileNamedPlain (file : FilterFile) (name : String) : Except CompileError PlainFilter :=
  match file.filters.get? name with
  | some spec => spec.compilePlain name
  | none => .error (.unknownFilter name file.names)

/-- The clauses of the filter called `name`; there are none if no filter is called so. -/
def clausesNamed (file : FilterFile) (name : String) : List ClauseSpec :=
  match file.filters.get? name with
  | some spec => spec.clauses
  | none => []

theorem get?_of_mem (member : (name, spec) ∈ file.filters) : file.filters.get? name = some spec :=
  (Table.get?_eq_some_iff file.ordered).2 member

theorem get?_of_not_mem_names (unknown : name ∉ file.names) : file.filters.get? name = none := by
  rw [Option.eq_none_iff_forall_ne_some]
  intro spec found
  exact unknown (List.mem_map_of_mem ((Table.get?_eq_some_iff file.ordered).1 found))

theorem compileNamedPlain_of_mem (member : (name, spec) ∈ file.filters) :
    file.compileNamedPlain name = spec.compilePlain name := by
  rw [compileNamedPlain, get?_of_mem member]

theorem compileNamed_of_not_mem_names (unknown : name ∉ file.names) (cache : Cache) :
    file.compileNamed name cache = (.error (.unknownFilter name file.names), cache) := by
  rw [compileNamed, get?_of_not_mem_names unknown]

/-- A filter is compiled by name as it would be without a cache. -/
theorem answersAs_compileNamed (sound : cache.Sound) (file : FilterFile) (name : String) :
    AnswersAs Filter.plain Filter.StoredIn
      (file.compileNamedPlain name) (compiledKeys (file.clausesNamed name)) cache
      (file.compileNamed name cache) := by
  rw [compileNamed, compileNamedPlain, clausesNamed]
  cases file.filters.get? name with
  | none =>
      exact ⟨rfl, .refl sound, nofun⟩
  | some spec =>
      exact FilterSpec.answersAs_compile sound spec name

/-- Without a cache all filters of a file are the filters of its names. -/
theorem compileAllPlain_eq_mapM (file : FilterFile) :
    compileAllPlain file.filters = file.names.mapM file.compileNamedPlain := by
  rw [names, Table.names, List.mapM_map, compileAllPlain]
  apply mapM_congr
  rintro ⟨name, spec⟩ member
  exact (compileNamedPlain_of_mem member).symm

theorem name_of_compileNamedPlain
    {filter : PlainFilter} (compiled : file.compileNamedPlain name = .ok filter) :
    filter.name = name := by
  rw [compileNamedPlain] at compiled
  split at compiled
  · exact FilterSpec.name_of_compilePlain compiled
  · cases compiled

theorem mem_names_of_compileNamed
    {filter : Filter} (compiled : (file.compileNamed name cache).1 = .ok filter) :
    name ∈ file.names := by
  by_contra unknown
  rw [compileNamed_of_not_mem_names unknown] at compiled
  cases compiled

theorem clausesNamed_subset (file : FilterFile) (name : String) :
    file.clausesNamed name ⊆ clausesOf file.filters := by
  rw [clausesNamed]
  split
  · rename_i spec found
    have member := (Table.get?_eq_some_iff file.ordered).1 found
    exact fun clause inClauses => List.mem_flatMap.2 ⟨(name, spec), member, inClauses⟩
  · exact List.nil_subset _

/-- A cache that has the queries of a filter does not change when the filter is compiled. -/
theorem compileNamed_of_found
    (found : ∀ clause ∈ file.clausesNamed name, ∃ stored, cache.lookup clause.key = some stored) :
    (file.compileNamed name cache).2 = cache := by
  rw [clausesNamed] at found
  rw [compileNamed]
  split
  · rename_i spec named
    rw [named] at found
    exact FilterSpec.compile_of_found found name
  · rfl

/-! ## All filters and one -/

theorem exists_compile_eq_ok_iff (sound : cache.Sound) :
    (∃ filters, (file.compile cache).1 = .ok filters) ↔
      ∀ name ∈ file.names, ∃ filter, (file.compileNamed name cache).1 = .ok filter := by
  have all := answersAs_compileAll sound file.filters
  rw [compile, all.exists_ok_iff, compileAllPlain_eq_mapM, exists_mapM_eq_ok_iff]
  exact forall₂_congr fun name _ => (answersAs_compileNamed sound file name).exists_ok_iff.symm

theorem compiles_of_compileAllPlain
    {filters : List PlainFilter} (compiled : compileAllPlain table = .ok filters) :
    ∀ clause ∈ clausesOf table, clause.compiles = true := by
  intro clause member
  obtain ⟨named, namedMember, inClauses⟩ := List.mem_flatMap.1 member
  obtain ⟨filter, _, found⟩ := exists_result_of_mapM compiled namedMember
  exact (named.2.exists_compilePlain_eq_ok_iff named.1).1 ⟨filter, found⟩ clause inClauses

section Compiled

variable {filter : Filter} {filters : List Filter}

theorem compileNamedPlain_of_mem_compile
    (sound : cache.Sound) (all : (file.compile cache).1 = .ok filters) (member : filter ∈ filters) :
    file.compileNamedPlain filter.name = .ok filter.plain := by
  have plainAll := (answersAs_compileAll sound file.filters).expected_eq_of_ok all
  rw [compileAllPlain_eq_mapM] at plainAll
  obtain ⟨name, _, found⟩ := exists_item_of_mapM plainAll (List.mem_map_of_mem member)
  have sameName : filter.name = name := name_of_compileNamedPlain found
  rwa [sameName]

/-- When all filters were compiled, each one is there to be had by its name. -/
theorem compileNamed_of_mem_compile
    (sound : cache.Sound) (all : (file.compile cache).1 = .ok filters) (member : filter ∈ filters) :
    file.compileNamed filter.name (file.compile cache).2 =
      (.ok filter, (file.compile cache).2) := by
  have together := answersAs_compileAll sound file.filters
  have named := answersAs_compileNamed together.grows.sound file filter.name
  have compile := compiles_of_compileAllPlain (together.expected_eq_of_ok all)
  have unchanged : (file.compileNamed filter.name (file.compile cache).2).2 =
      (file.compile cache).2 := by
    apply compileNamed_of_found
    intro clause inClauses
    have inFile := file.clausesNamed_subset filter.name inClauses
    exact (together.grows.found clause.key).2 (.inr (mem_compiledKeys_of_compiles compile inFile))
  obtain ⟨other, answered, same⟩ :=
    map_eq_ok_iff.1 (named.same.trans (compileNamedPlain_of_mem_compile sound all member))
  have storedIn := (together.stored filters all filter member).mono named.grows
  rw [Filter.eq_of_plain_eq (named.stored other answered) storedIn same] at answered
  exact Prod.ext answered unchanged

/-- A filter that was compiled by name is among all filters. -/
theorem mem_compile_of_compileNamed
    (sound : cache.Sound) (one : (file.compileNamed name cache).1 = .ok filter)
    (all : (file.compile (file.compileNamed name cache).2).1 = .ok filters) :
    filter ∈ filters := by
  have named := answersAs_compileNamed sound file name
  have together := answersAs_compileAll named.grows.sound file.filters
  have plainAll := together.expected_eq_of_ok all
  rw [compileAllPlain_eq_mapM] at plainAll
  obtain ⟨plain, member, found⟩ := exists_result_of_mapM plainAll (mem_names_of_compileNamed one)
  obtain ⟨other, otherMember, rfl⟩ := List.mem_map.1 member
  have same := Except.ok.inj ((named.expected_eq_of_ok one).symm.trans found)
  have storedIn := (named.stored filter one).mono together.grows
  rwa [Filter.eq_of_plain_eq storedIn (together.stored filters all other otherMember) same]

end Compiled

/-- The error of all filters is that of the first that fails, and it names its first clause that
does not compile. -/
theorem exists_first_of_compile
    {error : CompileError} (sound : cache.Sound) (failed : (file.compile cache).1 = .error error) :
    ∃ before name after spec done clause rest cause,
      file.names = before ++ name :: after ∧
        (∀ earlier ∈ before, ∃ filter, (file.compileNamed earlier cache).1 = .ok filter) ∧
        (file.compileNamed name cache).1 = .error error ∧
        (name, spec) ∈ file.filters ∧
        spec.clauses = done ++ clause :: rest ∧
        (∀ earlier ∈ done, earlier.compiles = true) ∧
        clause.key.compile = .error cause ∧
        error = .clause (done.length + 1) name clause.query cause := by
  have plainFailed := (answersAs_compileAll sound file.filters).error_iff.1 failed
  rw [compileAllPlain_eq_mapM] at plainFailed
  obtain ⟨before, name, after, split, succeeded, failedThere⟩ := mapM_eq_error_iff.1 plainFailed
  have known : name ∈ file.names := by
    rw [split]
    exact List.mem_append_right _ List.mem_cons_self
  obtain ⟨⟨_, spec⟩, member, rfl⟩ := List.mem_map.1 known
  have clauseFailed := failedThere
  rw [compileNamedPlain_of_mem member, FilterSpec.compilePlain, map_eq_error_iff] at clauseFailed
  obtain ⟨done, clause, rest, cause, splitClauses, compile, fails, named⟩ :=
    ClauseSpec.exists_first_of_compileAllPlain clauseFailed
  refine ⟨before, _, after, spec, done, clause, rest, cause, split, ?_, ?_, member, splitClauses,
    compile, fails, ?_⟩
  · intro earlier earlierMember
    exact (answersAs_compileNamed sound file earlier).exists_ok_iff.2
      (succeeded earlier earlierMember)
  · exact (answersAs_compileNamed sound file _).error_iff.2 failedThere
  · rw [named, Nat.add_comm]

/-- All filters compile exactly if each name does. They are listed in the order of their names, and
each is what its name gives: the same clauses and, once the cache has them, the very same trees,
whichever of the two calls came first. If they do not compile, the error is that of the first name
that fails, and it counts the clauses up to the first that does not compile. The cache keeps what it
held and gains the clauses before that one, none for an unknown name. What it held makes no
difference to the answers, apart from the identities of the trees. -/
theorem compile_agrees_with_compileNamed (file : FilterFile) (history : List Cache.Operation) :
    ((∃ filters, (file.compile (Cache.after history)).1 = .ok filters) ↔
      ∀ name ∈ file.names, ∃ filter,
        (file.compileNamed name (Cache.after history)).1 = .ok filter) ∧
    (∀ filters, (file.compile (Cache.after history)).1 = .ok filters →
      filters.map Filter.name = file.names ∧ file.names.Pairwise (· < ·) ∧
      ∀ filter ∈ filters,
        (file.compileNamed filter.name (Cache.after history)).1.map Filter.plain =
          .ok filter.plain ∧
        file.compileNamed filter.name (file.compile (Cache.after history)).2 =
          (.ok filter, (file.compile (Cache.after history)).2)) ∧
    (∀ name filter filters,
      (file.compileNamed name (Cache.after history)).1 = .ok filter →
      (file.compile (file.compileNamed name (Cache.after history)).2).1 = .ok filters →
        filter ∈ filters) ∧
    (∀ error, (file.compile (Cache.after history)).1 = .error error →
      ∃ before name after spec done clause rest cause,
        file.names = before ++ name :: after ∧
        (∀ earlier ∈ before, ∃ filter,
          (file.compileNamed earlier (Cache.after history)).1 = .ok filter) ∧
        (file.compileNamed name (Cache.after history)).1 = .error error ∧
        (name, spec) ∈ file.filters ∧
        spec.clauses = done ++ clause :: rest ∧
        (∀ earlier ∈ done, earlier.compiles = true) ∧
        clause.key.compile = .error cause ∧
        error = .clause (done.length + 1) name clause.query cause) ∧
    Cache.GrowsBy (compiledKeys (clausesOf file.filters)) (Cache.after history)
      (file.compile (Cache.after history)).2 ∧
    (∀ name, Cache.GrowsBy (compiledKeys (file.clausesNamed name)) (Cache.after history)
      (file.compileNamed name (Cache.after history)).2) ∧
    (∀ name, name ∉ file.names →
      file.compileNamed name (Cache.after history) =
        (.error (.unknownFilter name file.names), Cache.after history)) ∧
    (∀ other,
      (file.compile (Cache.after other)).1.map (List.map Filter.plain) =
        (file.compile (Cache.after history)).1.map (List.map Filter.plain) ∧
      ∀ name,
        (file.compileNamed name (Cache.after other)).1.map Filter.plain =
          (file.compileNamed name (Cache.after history)).1.map Filter.plain) := by
  have sound := Cache.sound_after history
  have all := answersAs_compileAll sound file.filters
  have named := answersAs_compileNamed sound file
  refine ⟨exists_compile_eq_ok_iff sound, ?_, fun _ _ _ => mem_compile_of_compileNamed sound,
    fun _ => exists_first_of_compile sound, all.grows, fun name => (named name).grows,
    fun _ unknown => compileNamed_of_not_mem_names unknown _, ?_⟩
  · intro filters compiled
    refine ⟨names_of_compileAll compiled, file.ordered, fun filter member => ⟨?_, ?_⟩⟩
    · exact (named filter.name).same.trans (compileNamedPlain_of_mem_compile sound compiled member)
    · exact compileNamed_of_mem_compile sound compiled member
  · intro other
    have soundOther := Cache.sound_after other
    refine ⟨(answersAs_compileAll soundOther file.filters).same.trans all.same.symm, ?_⟩
    intro name
    exact (answersAs_compileNamed soundOther file name).same.trans (named name).same.symm

end CatalogFilter.FilterFile
