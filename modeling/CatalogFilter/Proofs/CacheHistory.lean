import CatalogFilter.Proofs.CacheContents
import CatalogFilter.Proofs.WellFormed
import Mathlib.Data.List.Induction
import Mathlib.Data.Set.Card

/-!
# The history of a cache

A cache that is asked again and again answers as if it compiled each time. What it holds is told by
its history alone: the keys that were requested with success since everything was last forgotten.
Two answers for one key are one stored query exactly when nothing was forgotten between them.
-/

namespace CatalogFilter.Cache

/-- What is asked of a cache. -/
inductive Operation where
  | getOrCompile (key : Key)
  | get (key : Key)
  | clear
deriving DecidableEq, Repr

namespace Operation

/-- The key whose query is wanted. -/
def key? : Operation → Option Key
  | .getOrCompile key | .get key => some key
  | .clear => none

end Operation

/-- Answers an operation with a stored query, with none, or with the reason why there is none. -/
def perform (cache : Cache) : Operation → Except EngineError (Option Stored) × Cache
  | .getOrCompile key => ((cache.getOrCompile key).1.map some, (cache.getOrCompile key).2)
  | .get key => (.ok (cache.lookup key), cache)
  | .clear => (.ok none, cache.clear)

/-- The cache after operations in turn. -/
def performAll (cache : Cache) (operations : List Operation) : Cache :=
  operations.foldl (fun cache operation => (cache.perform operation).2) cache

/-- A new cache after operations in turn. -/
def after (history : List Operation) : Cache :=
  empty.performAll history

/-- The query of a key was requested with success, and nothing was forgotten since. -/
def RequestedSinceClear (history : List Operation) (key : Key) : Prop :=
  ∃ before later,
    history = before ++ .getOrCompile key :: later ∧
      .clear ∉ later ∧
      ∃ stored, ((after before).getOrCompile key).1 = .ok stored

variable {cache : Cache} {key : Key} {stored : Stored} {operation : Operation}

/-! ## One operation -/

/-- An operation changes nothing, keeps the query of the key that it requests, or forgets
everything. -/
theorem Sound.perform_cases (sound : cache.Sound) (operation : Operation) :
    (cache.perform operation).2 = cache ∨
    (∃ key query, key.compile = .ok query ∧
      (cache.perform operation).2 = (cache.remember key query).2) ∨
    (operation = .clear ∧ (cache.perform operation).2 = cache.clear) := by
  cases operation with
  | getOrCompile key =>
      rw [Cache.perform, sound.getOrCompile_eq]
      cases compiled : key.compile with
      | error error =>
          exact .inl rfl
      | ok query =>
          exact .inr (.inl ⟨key, query, compiled, rfl⟩)
  | get key =>
      exact .inl rfl
  | clear =>
      exact .inr (.inr ⟨rfl, rfl⟩)

theorem Sound.perform (sound : cache.Sound) (operation : Operation) :
    (cache.perform operation).2.Sound := by
  obtain same | ⟨key, query, compiled, kept⟩ | ⟨_, forgotten⟩ := sound.perform_cases operation
  · rwa [same]
  · rw [kept]
    exact sound.remember compiled
  · rw [forgotten]
    exact sound_clear cache

theorem NumbersFrom.perform
    {number : Nat} (numbers : cache.NumbersFrom number) (sound : cache.Sound)
    (operation : Operation) :
    (cache.perform operation).2.NumbersFrom number := by
  obtain same | ⟨key, query, _, kept⟩ | ⟨_, forgotten⟩ := sound.perform_cases operation
  · rwa [same]
  · rw [kept]
    exact numbers.remember key query
  · rw [forgotten]
    exact numbers.clear

theorem Sound.nextSerial_le_perform (sound : cache.Sound) (operation : Operation) :
    cache.nextSerial ≤ (cache.perform operation).2.nextSerial := by
  obtain same | ⟨key, query, _, kept⟩ | ⟨_, forgotten⟩ := sound.perform_cases operation
  · rw [same]
  · rw [kept]
    exact nextSerial_le_remember cache key query
  · rw [forgotten]
    exact Nat.le_refl _

/-- Only forgetting takes a stored query away. -/
theorem Sound.lookup_perform_of_lookup
    (sound : cache.Sound) (found : cache.lookup key = some stored)
    (keeps : operation ≠ .clear) :
    (cache.perform operation).2.lookup key = some stored := by
  obtain same | ⟨asked, query, _, kept⟩ | ⟨forgets, _⟩ := sound.perform_cases operation
  · rwa [same]
  · rw [kept]
    exact lookup_remember_of_lookup found asked query
  · exact absurd forgets keeps

/-- Only a request for its key brings a stored query in, and that request is answered with it. -/
theorem Sound.getOrCompile_of_lookup_perform
    (sound : cache.Sound) (absent : cache.lookup key = none)
    (found : (cache.perform operation).2.lookup key = some stored) :
    operation = .getOrCompile key ∧ (cache.getOrCompile key).1 = .ok stored := by
  cases operation with
  | getOrCompile asked =>
      rw [Cache.perform, sound.getOrCompile_eq] at found
      rw [sound.getOrCompile_eq]
      cases compiled : asked.compile with
      | error error =>
          simp [compiled, absent] at found
      | ok query =>
          simp only [compiled] at found
          by_cases same : key = asked
          · subst same
            rw [lookup_remember_self] at found
            simp only [compiled, true_and]
            exact congrArg Except.ok (Option.some.inj found)
          · rw [lookup_remember_of_ne cache query same, absent] at found
            cases found
  | get asked =>
      rw [Cache.perform, absent] at found
      cases found
  | clear =>
      cases found

/-- What is answered for a key is stored under it from then on. -/
theorem Sound.lookup_perform_of_answer
    (sound : cache.Sound) (asks : operation.key? = some key)
    (answered : (cache.perform operation).1 = .ok (some stored)) :
    (cache.perform operation).2.lookup key = some stored := by
  cases operation with
  | getOrCompile asked =>
      cases asks
      rw [Cache.perform, sound.getOrCompile_eq] at answered ⊢
      cases compiled : key.compile with
      | error error =>
          simp [compiled, Except.map] at answered
      | ok query =>
          simp only [compiled, Except.map, Except.ok.injEq, Option.some.injEq] at answered ⊢
          rw [lookup_remember_self, answered]
  | get asked =>
      cases asks
      exact Except.ok.inj answered
  | clear =>
      cases asks

/-- What is stored under a key is what is answered for it. -/
theorem answer_of_lookup
    (asks : operation.key? = some key) (found : cache.lookup key = some stored) :
    (cache.perform operation).1 = .ok (some stored) := by
  cases operation with
  | getOrCompile asked =>
      cases asks
      rw [perform, getOrCompile_of_lookup found]
      rfl
  | get asked =>
      cases asks
      rw [perform, found]
  | clear =>
      cases asks

/-! ## Operations in turn -/

theorem performAll_cons (operation : Operation) (operations : List Operation) :
    cache.performAll (operation :: operations) =
      (cache.perform operation).2.performAll operations :=
  rfl

theorem performAll_append (operations more : List Operation) :
    cache.performAll (operations ++ more) = (cache.performAll operations).performAll more :=
  List.foldl_append

theorem after_append (history more : List Operation) :
    after (history ++ more) = (after history).performAll more :=
  performAll_append history more

theorem Sound.performAll (sound : cache.Sound) (operations : List Operation) :
    (cache.performAll operations).Sound := by
  induction operations generalizing cache with
  | nil =>
      exact sound
  | cons operation operations inductionHypothesis =>
      exact inductionHypothesis (sound.perform operation)

theorem sound_after (history : List Operation) : (after history).Sound :=
  sound_empty.performAll history

theorem Sound.lookup_performAll_of_lookup
    (sound : cache.Sound) (found : cache.lookup key = some stored)
    {operations : List Operation} (keeps : .clear ∉ operations) :
    (cache.performAll operations).lookup key = some stored := by
  induction operations generalizing cache with
  | nil =>
      exact found
  | cons operation operations inductionHypothesis =>
      rw [List.mem_cons, not_or] at keeps
      apply inductionHypothesis (sound.perform operation) _ keeps.2
      exact sound.lookup_perform_of_lookup found (Ne.symm keeps.1)

theorem NumbersFrom.performAll
    {number : Nat} (numbers : cache.NumbersFrom number) (sound : cache.Sound)
    (operations : List Operation) :
    (cache.performAll operations).NumbersFrom number := by
  induction operations generalizing cache with
  | nil =>
      exact numbers
  | cons operation operations inductionHypothesis =>
      exact inductionHypothesis (numbers.perform sound operation) (sound.perform operation)

theorem Sound.nextSerial_le_performAll (sound : cache.Sound) (operations : List Operation) :
    cache.nextSerial ≤ (cache.performAll operations).nextSerial := by
  induction operations generalizing cache with
  | nil =>
      exact Nat.le_refl _
  | cons operation operations inductionHypothesis =>
      calc
        cache.nextSerial ≤ (cache.perform operation).2.nextSerial :=
          sound.nextSerial_le_perform operation
        _ ≤ ((cache.perform operation).2.performAll operations).nextSerial :=
          inductionHypothesis (sound.perform operation)

/-- Once everything was forgotten, serial numbers start above all that were given before. -/
theorem Sound.numbersFrom_performAll_of_clear
    (sound : cache.Sound) {operations : List Operation} (forgets : .clear ∈ operations) :
    (cache.performAll operations).NumbersFrom cache.nextSerial := by
  obtain ⟨before, later, rfl⟩ := List.append_of_mem forgets
  rw [performAll_append, performAll_cons]
  have forgotten := numbersFrom_clear (cache.performAll before)
  have numbers := forgotten.performAll (sound_clear _) later
  constructor
  · intro entry member
    exact Nat.le_trans (sound.nextSerial_le_performAll before) (numbers.entries entry member)
  · exact Nat.le_trans (sound.nextSerial_le_performAll before) numbers.next

/-! ## What a history tells -/

theorem RequestedSinceClear.concat
    {history : List Operation} (requested : RequestedSinceClear history key)
    (keeps : operation ≠ .clear) :
    RequestedSinceClear (history ++ [operation]) key := by
  obtain ⟨before, later, rfl, kept, succeeded⟩ := requested
  refine ⟨before, later ++ [operation], by simp, ?_, succeeded⟩
  rw [List.mem_append, List.mem_singleton, not_or]
  exact ⟨kept, Ne.symm keeps⟩

theorem RequestedSinceClear.exists_lookup
    {history : List Operation} (requested : RequestedSinceClear history key) :
    ∃ stored, (after history).lookup key = some stored := by
  obtain ⟨before, later, rfl, kept, stored, succeeded⟩ := requested
  rw [after_append, performAll_cons]
  have sound := sound_after before
  have answered : ((after before).perform (.getOrCompile key)).1 = .ok (some stored) := by
    rw [perform, succeeded]
    rfl
  have found := sound.lookup_perform_of_answer rfl answered
  exact ⟨stored, (sound.perform _).lookup_performAll_of_lookup found kept⟩

theorem requestedSinceClear_of_lookup
    {history : List Operation} (found : (after history).lookup key = some stored) :
    RequestedSinceClear history key := by
  induction history using List.reverseRecOn generalizing stored with
  | nil =>
      cases found
  | append_singleton history operation inductionHypothesis =>
      rw [after_append] at found
      cases before : (after history).lookup key with
      | some held =>
          -- Had this operation been a clearing, the key would not be found after it.
          apply (inductionHypothesis before).concat
          rintro rfl
          cases found
      | none =>
          obtain ⟨rfl, succeeded⟩ :=
            (sound_after history).getOrCompile_of_lookup_perform before found
          exact ⟨history, [], rfl, List.not_mem_nil, stored, succeeded⟩

theorem exists_lookup_iff_requestedSinceClear {history : List Operation} :
    (∃ stored, (after history).lookup key = some stored) ↔ RequestedSinceClear history key := by
  constructor
  · rintro ⟨stored, found⟩
    exact requestedSinceClear_of_lookup found
  · exact RequestedSinceClear.exists_lookup

theorem mem_keys_iff :
    key ∈ cache.entries.map Entry.key ↔ ∃ stored, cache.lookup key = some stored := by
  rw [← not_iff_not, ← lookup_eq_none_iff, Option.eq_none_iff_forall_ne_some, not_exists]

theorem encard_requestedSinceClear (history : List Operation) :
    {key | RequestedSinceClear history key}.encard = (after history).size := by
  have keys :
      {key | RequestedSinceClear history key} =
        ((after history).entries.map Entry.key).toFinset := by
    ext key
    simp [← exists_lookup_iff_requestedSinceClear, ← mem_keys_iff]
  rw [keys, Set.encard_coe_eq_coe_finsetCard,
    List.toFinset_card_of_nodup (sound_after history).distinct, List.length_map, size]

/-- A request is answered as compiling is. -/
theorem Sound.query_getOrCompile (sound : cache.Sound) (key : Key) :
    (cache.getOrCompile key).1.map Stored.query = key.compile := by
  rw [sound.getOrCompile_eq]
  cases compiled : key.compile with
  | error error =>
      rfl
  | ok query =>
      exact congrArg Except.ok (sound.query_remember compiled)

theorem Sound.getOrCompile_of_error
    (sound : cache.Sound) {error : EngineError}
    (failed : (cache.getOrCompile key).1 = .error error) :
    (cache.getOrCompile key).2 = cache := by
  rw [sound.getOrCompile_eq] at failed ⊢
  cases compiled : key.compile with
  | error error =>
      rfl
  | ok query =>
      simp [compiled] at failed

theorem Key.source_profile_of_compile {query : Query} (compiled : key.compile = .ok query) :
    query.source = key.source ∧ query.profile = key.profile := by
  obtain ⟨_, _, _, _, rfl⟩ := Query.compile_eq_ok_iff.1 compiled
  exact ⟨rfl, rfl⟩

/-- Two answers for one key are the same stored query if nothing was forgotten between them. -/
theorem Sound.answer_eq_of_kept
    {first second : Operation} {between : List Operation} {earlier later : Stored}
    (sound : cache.Sound)
    (firstAsks : first.key? = some key) (secondAsks : second.key? = some key)
    (firstAnswer : (cache.perform first).1 = .ok (some earlier))
    (secondAnswer : ((cache.performAll (first :: between)).perform second).1 = .ok (some later))
    (keeps : .clear ∉ between) :
    earlier = later := by
  have found := sound.lookup_perform_of_answer firstAsks firstAnswer
  have still := (sound.perform first).lookup_performAll_of_lookup found keeps
  rw [performAll_cons, answer_of_lookup secondAsks still] at secondAnswer
  exact Option.some.inj (Except.ok.inj secondAnswer)

/-- They have different serial numbers if everything was forgotten between them. -/
theorem Sound.serial_ne_of_forgotten
    {first second : Operation} {between : List Operation} {earlier later : Stored}
    (sound : cache.Sound)
    (firstAsks : first.key? = some key) (secondAsks : second.key? = some key)
    (firstAnswer : (cache.perform first).1 = .ok (some earlier))
    (secondAnswer : ((cache.performAll (first :: between)).perform second).1 = .ok (some later))
    (forgets : .clear ∈ between) :
    earlier.serial ≠ later.serial := by
  rw [performAll_cons] at secondAnswer
  have soundAfter := sound.perform first
  have found := sound.lookup_perform_of_answer firstAsks firstAnswer
  have below : earlier.serial < (cache.perform first).2.nextSerial :=
    soundAfter.serial_lt_of_lookup found
  have numbers := soundAfter.numbersFrom_performAll_of_clear forgets
  have soundLater := soundAfter.performAll between
  have foundLater := soundLater.lookup_perform_of_answer secondAsks secondAnswer
  -- The serial numbers before the clearing and those after it lie on two sides of this one.
  have above : (cache.perform first).2.nextSerial ≤ later.serial :=
    (numbers.perform soundLater second).le_of_lookup foundLater
  omega

/-- What holds after every history. A request answers what compiling answers, whatever came before.
A look-up finds the keys that were requested with success since everything was last forgotten, and
the size counts them. A failed request and a look-up change nothing. Two answers for one key are one
stored query if nothing was forgotten between them, and two different ones if everything was. -/
theorem history_determines_answers (history : List Operation) :
    (∀ key, ((after history).getOrCompile key).1.map Stored.query = key.compile) ∧
    (∀ key stored, ((after history).getOrCompile key).1 = .ok stored →
      stored.query.source = key.source ∧ stored.query.profile = key.profile) ∧
    (∀ key, (∃ stored, (after history).lookup key = some stored) ↔
      RequestedSinceClear history key) ∧
    {key | RequestedSinceClear history key}.encard = (after history).size ∧
    ((after history).isEmpty = true ↔ (after history).size = 0) ∧
    (∀ key error, ((after history).getOrCompile key).1 = .error error →
      ((after history).getOrCompile key).2 = after history) ∧
    (∀ key, (after history).perform (.get key) =
      (.ok ((after history).lookup key), after history)) ∧
    (∀ before first between, history = before ++ first :: between →
      ∀ key second, first.key? = some key → second.key? = some key →
        ∀ earlier later,
          ((after before).perform first).1 = .ok (some earlier) →
          ((after history).perform second).1 = .ok (some later) →
            (.clear ∉ between → earlier = later) ∧
            (.clear ∈ between → earlier.serial ≠ later.serial)) := by
  have sound := sound_after history
  refine ⟨sound.query_getOrCompile, ?_, fun _ => exists_lookup_iff_requestedSinceClear,
    encard_requestedSinceClear history, ?_, fun _ _ => sound.getOrCompile_of_error,
    fun _ => rfl, ?_⟩
  · intro key stored answered
    have compiled := sound.query_getOrCompile key
    rw [answered] at compiled
    exact Key.source_profile_of_compile compiled.symm
  · simp [isEmpty]
  · rintro before first between rfl key second firstAsks secondAsks earlier later firstAnswer
      secondAnswer
    rw [after_append] at secondAnswer
    have soundBefore := sound_after before
    constructor
    · exact soundBefore.answer_eq_of_kept firstAsks secondAsks firstAnswer secondAnswer
    · exact soundBefore.serial_ne_of_forgotten firstAsks secondAsks firstAnswer secondAnswer

end CatalogFilter.Cache
