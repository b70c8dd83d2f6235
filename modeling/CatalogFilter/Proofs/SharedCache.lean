import CatalogFilter.Proofs.CacheContents
import Mathlib.Logic.Function.Basic

/-!
# A cache that many clients share

Looking up, keeping and forgetting are single steps. Between a look-up that finds nothing and the
keeping, a client compiles on its own, and other clients can do anything in the meantime: several
can hold a compiled query for one key, each with a number of its own, and everything can be
forgotten before a query is kept. A compiled query that is not kept, because its key has an entry by
then, is never answered: the client gets the entry. So clients that obtain a query for one key share
it until everything is forgotten.
-/

namespace CatalogFilter.Cache

universe u

/-- Where a client stands in a request. -/
inductive Phase where
  | idle
  /-- The look-up found nothing. -/
  | missed (key : Key)
  /-- The key is compiled to this query, which has its number and is still to be kept. -/
  | compiled (key : Key) (own : Stored)
deriving DecidableEq, Repr

/-- A cache, and where each of its clients stands. -/
structure Shared (Client : Type u) where
  cache : Cache
  phase : Client → Phase

/-- What a step of one client shows. -/
inductive Event (Client : Type u) where
  /-- A look-up that finds the key, or the keeping of a query, answers a stored query. -/
  | obtains (client : Client) (key : Key) (stored : Stored)
  | clears (client : Client)
  /-- A step that answers no query and forgets nothing. -/
  | proceeds (client : Client)
deriving DecidableEq, Repr

variable {Client : Type u}

namespace Shared

/-- A new cache, whose clients have asked nothing. -/
def start : Shared Client :=
  ⟨empty, fun _ => .idle⟩

/-- The state after everything was forgotten. Compiled queries that are still to be kept stay. -/
def clear (state : Shared Client) : Shared Client :=
  { state with cache := state.cache.clear }

/-- A compiled query is in use: the cache stores it under its key, or a client is still to keep it.
The holder is `none` for the cache. -/
inductive Holds (state : Shared Client) : Option Client → Key → Stored → Prop
  | cache {key : Key} {stored : Stored} :
      state.cache.lookup key = some stored → Holds state none key stored
  | client {client : Client} {key : Key} {own : Stored} :
      state.phase client = .compiled key own → Holds state (some client) key own

/-- Every query in use is the compilation of its key, and it has a number that no other query in use
has. -/
structure Consistent (state : Shared Client) : Prop where
  sound : state.cache.Sound
  compiled : ∀ {holder : Option Client} {key : Key} {stored : Stored},
    state.Holds holder key stored → key.compile = .ok stored.query
  numbered : ∀ {holder : Option Client} {key : Key} {stored : Stored},
    state.Holds holder key stored → stored.serial < state.cache.nextSerial
  apart : ∀ {first second : Option Client} {key other : Key} {stored held : Stored},
    state.Holds first key stored → state.Holds second other held →
      stored.serial = held.serial → first = second ∧ key = other

theorem not_holds_start {holder : Option Client} {key : Key} {stored : Stored} :
    ¬ (start : Shared Client).Holds holder key stored := by
  intro holds
  cases holds with
  | cache found =>
      cases found
  | client compiled =>
      cases compiled

theorem consistent_start : (start : Shared Client).Consistent :=
  ⟨sound_empty, (absurd · not_holds_start), (absurd · not_holds_start),
    fun holds => absurd holds not_holds_start⟩

variable {state next final : Shared Client} {client other : Client} {event : Event Client}
  {events : List (Event Client)} {key asked : Key} {query : Query} {stored held own : Stored}
  {phase : Phase} {holder : Option Client}

theorem Holds.of_clear (holds : state.clear.Holds holder key stored) :
    state.Holds holder key stored := by
  cases holds with
  | cache found =>
      cases found
  | client compiled =>
      exact .client compiled

/-- What is in use after a step was in use before, except for one query that shares its number with
nothing that stays. -/
theorem Consistent.of_gain
    (consistent : state.Consistent) (sound : next.cache.Sound)
    (onward : state.cache.nextSerial ≤ next.cache.nextSerial)
    (compiled : key.compile = .ok own.query) (numbered : own.serial < next.cache.nextSerial)
    (gains : ∀ {place asked stored}, next.Holds place asked stored →
      state.Holds place asked stored ∧ stored.serial ≠ own.serial ∨
        place = holder ∧ asked = key ∧ stored = own) :
    next.Consistent where
  sound := sound
  compiled holds := by
    rcases gains holds with ⟨before, _⟩ | ⟨_, sameKey, same⟩
    · exact consistent.compiled before
    · rw [sameKey, same]
      exact compiled
  numbered holds := by
    rcases gains holds with ⟨before, _⟩ | ⟨_, _, same⟩
    · exact Nat.lt_of_lt_of_le (consistent.numbered before) onward
    · rw [same]
      exact numbered
  apart first second sameSerial := by
    rcases gains first with ⟨before, apart⟩ | ⟨place, sameKey, same⟩
    · rcases gains second with ⟨otherBefore, _⟩ | ⟨_, _, otherSame⟩
      · exact consistent.apart before otherBefore sameSerial
      · rw [otherSame] at sameSerial
        exact absurd sameSerial apart
    · rcases gains second with ⟨_, otherApart⟩ | ⟨otherPlace, otherKey, _⟩
      · rw [same] at sameSerial
        exact absurd sameSerial.symm otherApart
      · exact ⟨place.trans otherPlace.symm, sameKey.trans otherKey.symm⟩

/-- A state is consistent if all that is in use was in use before. -/
theorem Consistent.of_holds
    (consistent : state.Consistent) (sound : next.cache.Sound)
    (onward : state.cache.nextSerial = next.cache.nextSerial)
    (before : ∀ {place asked stored}, next.Holds place asked stored →
      state.Holds place asked stored) :
    next.Consistent where
  sound := sound
  compiled holds := consistent.compiled (before holds)
  numbered holds := by
    rw [← onward]
    exact consistent.numbered (before holds)
  apart first second := consistent.apart (before first) (before second)

/-- What a client has compiled has a number that nothing else in use has. -/
theorem Consistent.serial_ne
    (consistent : state.Consistent) (compiled : state.phase client = .compiled key own)
    (holds : state.Holds holder asked stored) (elsewhere : holder ≠ some client) :
    stored.serial ≠ own.serial := by
  intro same
  exact elsewhere (consistent.apart holds (.client compiled) same).1

variable [DecidableEq Client]

/-- The state with one client in another phase. -/
def enter (state : Shared Client) (client : Client) (phase : Phase) : Shared Client :=
  { state with phase := Function.update state.phase client phase }

/-- The state after a client compiled a key. Its query has a number from now on. -/
def make (state : Shared Client) (client : Client) (key : Key) (query : Query) : Shared Client :=
  { state.enter client (.compiled key (state.cache.number query).1) with
    cache := (state.cache.number query).2 }

/-- The state after a client kept its query, or left the entry that was there. -/
def keep (state : Shared Client) (client : Client) (key : Key) (own : Stored) : Shared Client :=
  { state.enter client .idle with cache := (state.cache.insertIfAbsent key own).2 }

@[simp]
theorem phase_enter_self (state : Shared Client) (client : Client) (phase : Phase) :
    (state.enter client phase).phase client = phase :=
  Function.update_self ..

theorem phase_enter_of_ne
    (state : Shared Client) {client other : Client} (phase : Phase) (different : other ≠ client) :
    (state.enter client phase).phase other = state.phase other :=
  Function.update_of_ne different ..

theorem phase_make_self (state : Shared Client) (client : Client) (key : Key) (query : Query) :
    (state.make client key query).phase client =
      .compiled key (state.cache.number query).1 :=
  phase_enter_self state client _

theorem phase_make_of_ne
    (state : Shared Client) {client other : Client} (key : Key) (query : Query)
    (different : other ≠ client) :
    (state.make client key query).phase other = state.phase other :=
  phase_enter_of_ne state _ different

theorem phase_keep_of_ne
    (state : Shared Client) {client other : Client} (key : Key) (own : Stored)
    (different : other ≠ client) :
    (state.keep client key own).phase other = state.phase other :=
  phase_enter_of_ne state .idle different

/-- One step of one client. `hit` and `absent` are the whole of a `get`. A `getOrCompile` is `hit`
alone, `miss` and `fail`, or `miss`, `compile` and `keep`. -/
inductive Step : Shared Client → Event Client → Shared Client → Prop
  | hit {state : Shared Client} {client : Client} {key : Key} {stored : Stored} :
      state.phase client = .idle →
      state.cache.lookup key = some stored →
      Step state (.obtains client key stored) state
  | absent {state : Shared Client} {client : Client} {key : Key} :
      state.phase client = .idle →
      state.cache.lookup key = none →
      Step state (.proceeds client) state
  | miss {state : Shared Client} {client : Client} {key : Key} :
      state.phase client = .idle →
      state.cache.lookup key = none →
      Step state (.proceeds client) (state.enter client (.missed key))
  | fail {state : Shared Client} {client : Client} {key : Key} {error : EngineError} :
      state.phase client = .missed key →
      key.compile = .error error →
      Step state (.proceeds client) (state.enter client .idle)
  | compile {state : Shared Client} {client : Client} {key : Key} {query : Query} :
      state.phase client = .missed key →
      key.compile = .ok query →
      Step state (.proceeds client) (state.make client key query)
  | keep {state : Shared Client} {client : Client} {key : Key} {own : Stored} :
      state.phase client = .compiled key own →
      Step state (.obtains client key (state.cache.insertIfAbsent key own).1)
        (state.keep client key own)
  | clear {state : Shared Client} {client : Client} :
      state.phase client = .idle →
      Step state (.clears client) state.clear

/-- Steps of any clients in any order. -/
inductive Run : Shared Client → List (Event Client) → Shared Client → Prop
  | nil {state : Shared Client} :
      Run state [] state
  | cons {state next final : Shared Client} {event : Event Client} {events : List (Event Client)} :
      Step state event next →
      Run next events final →
      Run state (event :: events) final

theorem enter_enter (state : Shared Client) (client : Client) (first second : Phase) :
    (state.enter client first).enter client second = state.enter client second := by
  simp [enter]

theorem make_enter (state : Shared Client) (client : Client) (phase : Phase) (key : Key)
    (query : Query) :
    (state.enter client phase).make client key query = state.make client key query := by
  simp [make, enter]

theorem keep_make (state : Shared Client) (client : Client) (key : Key) (query : Query)
    (own : Stored) :
    (state.make client key query).keep client key own =
      { state.enter client .idle with
        cache := ((state.cache.number query).2.insertIfAbsent key own).2 } := by
  simp [keep, make, enter]

/-- A client that enters the phase it is in changes nothing. -/
theorem enter_phase (state : Shared Client) (client : Client) :
    state.enter client (state.phase client) = state := by
  simp [enter]

/-! ## Queries in use -/

/-- The queries of other clients stay in use when a client enters a phase. -/
theorem compiled_of_enter
    (compiled : (state.enter client phase).phase other = .compiled key own) :
    other = client ∧ phase = .compiled key own ∨
      other ≠ client ∧ state.phase other = .compiled key own := by
  by_cases same : other = client
  · rw [same, phase_enter_self] at compiled
    exact .inl ⟨same, compiled⟩
  · rw [phase_enter_of_ne state phase same] at compiled
    exact .inr ⟨same, compiled⟩

theorem Holds.of_enter
    (holds : (state.enter client phase).Holds holder key stored)
    (other : ∀ key own, phase ≠ .compiled key own) :
    state.Holds holder key stored := by
  cases holds with
  | cache found =>
      exact .cache found
  | client compiled =>
      rcases compiled_of_enter compiled with ⟨_, entered⟩ | ⟨_, before⟩
      · exact absurd entered (other _ _)
      · exact .client before

theorem Holds.of_make (holds : (state.make client key query).Holds holder asked stored) :
    state.Holds holder asked stored ∨
      holder = some client ∧ asked = key ∧ stored = (state.cache.number query).1 := by
  cases holds with
  | cache found =>
      exact .inl (.cache found)
  | client compiled =>
      rcases compiled_of_enter compiled with ⟨same, entered⟩ | ⟨_, before⟩
      · cases entered
        exact .inr ⟨congrArg some same, rfl, rfl⟩
      · exact .inl (.client before)

/-- A query that is kept goes from its client to the cache. -/
theorem Holds.of_keep (holds : (state.keep client key own).Holds holder asked stored) :
    state.Holds holder asked stored ∧ holder ≠ some client ∨
      holder = none ∧ asked = key ∧ stored = own := by
  cases holds with
  | cache found =>
      rw [keep] at found
      by_cases same : asked = key
      · rw [same] at found
        rw [lookup_insertIfAbsent_self] at found
        cases before : state.cache.lookup key with
        | none =>
            rw [insertIfAbsent_of_absent before] at found
            exact .inr ⟨rfl, same, (Option.some.inj found).symm⟩
        | some held =>
            rw [insertIfAbsent_of_lookup before] at found
            rw [same, ← Option.some.inj found]
            exact .inl ⟨.cache before, nofun⟩
      · rw [lookup_insertIfAbsent_of_ne _ _ same] at found
        exact .inl ⟨.cache found, nofun⟩
  | client compiled =>
      rcases compiled_of_enter compiled with ⟨_, entered⟩ | ⟨different, before⟩
      · cases entered
      · exact .inl ⟨.client before, fun same => different (Option.some.inj same)⟩

/-! ## One step -/

theorem Consistent.enter
    (consistent : state.Consistent) (other : ∀ key own, phase ≠ .compiled key own) :
    (state.enter client phase).Consistent :=
  consistent.of_holds consistent.sound rfl (·.of_enter other)

theorem Consistent.make
    (consistent : state.Consistent) (compiled : key.compile = .ok query) :
    (state.make client key query).Consistent := by
  have numbered : (state.cache.number query).1.serial <
      (state.make client key query).cache.nextSerial :=
    Nat.lt_succ_self _
  apply consistent.of_gain (consistent.sound.number query) (Nat.le_of_lt numbered) compiled numbered
  intro place asked stored holds
  rcases holds.of_make with before | gained
  · have below : stored.serial < state.cache.nextSerial := consistent.numbered before
    exact .inl ⟨before, Nat.ne_of_lt below⟩
  · exact .inr gained

theorem Consistent.keep
    (consistent : state.Consistent) (holds : state.phase client = .compiled key own) :
    (state.keep client key own).Consistent := by
  have compiled := consistent.compiled (.client holds)
  have numbered := consistent.numbered (.client holds)
  have same : (state.keep client key own).cache.nextSerial = state.cache.nextSerial :=
    nextSerial_insertIfAbsent state.cache key own
  apply consistent.of_gain (consistent.sound.insertIfAbsent compiled numbered)
    (Nat.le_of_eq same.symm) compiled (by rwa [same])
  intro place asked stored inUse
  rcases inUse.of_keep with ⟨before, elsewhere⟩ | gained
  · exact .inl ⟨before, consistent.serial_ne holds before elsewhere⟩
  · exact .inr gained

theorem Step.consistent
    (step : Step state event next) (consistent : state.Consistent) :
    next.Consistent := by
  cases step with
  | hit | absent =>
      exact consistent
  | miss | fail =>
      exact consistent.enter nofun
  | compile _ compiled =>
      exact consistent.make compiled
  | keep holds =>
      -- The look-up that missed can be long ago: only the invariant still knows what is kept.
      exact consistent.keep holds
  | clear =>
      exact consistent.of_holds (sound_clear state.cache) rfl (·.of_clear)

/-- Only forgetting takes an entry away, and nothing replaces it. -/
theorem Step.lookup_of_lookup
    (step : Step state event next) (keeps : ∀ client, event ≠ .clears client)
    (found : state.cache.lookup key = some stored) :
    next.cache.lookup key = some stored := by
  cases step with
  | hit | absent | miss | fail | compile =>
      exact found
  | keep =>
      exact lookup_insertIfAbsent_of_lookup found _ _
  | clear =>
      exact absurd rfl (keeps _)

/-- What a client obtains is the entry of its key from then on, be it its own query or not. -/
theorem Step.lookup_of_obtains
    (step : Step state (.obtains client key stored) next) :
    next.cache.lookup key = some stored := by
  cases step with
  | hit _ found =>
      exact found
  | keep =>
      exact lookup_insertIfAbsent_self _ _ _

/-- While its key has an entry, a client obtains that entry, whatever it compiled itself. -/
theorem Step.eq_of_lookup
    (step : Step state (.obtains client key stored) next)
    (found : state.cache.lookup key = some held) :
    stored = held := by
  have still : next.cache.lookup key = some held :=
    step.lookup_of_lookup nofun found
  exact Option.some.inj (step.lookup_of_obtains.symm.trans still)

/-- A client that keeps what it compiled obtains the entry of the key, and its own query only where
there is none. -/
theorem Step.eq_of_compiled
    (step : Step state (.obtains client key stored) next)
    (compiled : state.phase client = .compiled key own) :
    stored = (state.cache.lookup key).getD own := by
  cases found : state.cache.lookup key with
  | some held =>
      exact step.eq_of_lookup found
  | none =>
      cases step with
      | hit idle =>
          rw [compiled] at idle
          cases idle
      | keep holds =>
          rw [compiled] at holds
          cases holds
          rw [insertIfAbsent_of_absent found]
          rfl

/-! ## Runs -/

theorem run_append_iff {more : List (Event Client)} :
    Run state (events ++ more) final ↔
      ∃ middle, Run state events middle ∧ Run middle more final := by
  induction events generalizing state with
  | nil =>
      constructor
      · intro run
        exact ⟨state, .nil, run⟩
      · rintro ⟨middle, ⟨⟩, run⟩
        exact run
  | cons event events inductionHypothesis =>
      constructor
      · rintro (_ | ⟨step, run⟩)
        obtain ⟨middle, first, second⟩ := inductionHypothesis.1 run
        exact ⟨middle, .cons step first, second⟩
      · rintro ⟨middle, _ | ⟨step, first⟩, second⟩
        exact .cons step (inductionHypothesis.2 ⟨middle, first, second⟩)

theorem Run.consistent
    (run : Run state events final) (consistent : state.Consistent) :
    final.Consistent := by
  induction run with
  | nil =>
      exact consistent
  | cons step _ inductionHypothesis =>
      exact inductionHypothesis (step.consistent consistent)

theorem Run.lookup_of_lookup
    (run : Run state events final) (keeps : ∀ client, .clears client ∉ events)
    (found : state.cache.lookup key = some stored) :
    final.cache.lookup key = some stored := by
  induction run with
  | nil =>
      exact found
  | cons step _ inductionHypothesis =>
      simp only [List.mem_cons, not_or] at keeps
      have still := step.lookup_of_lookup (fun client => Ne.symm (keeps client).1) found
      exact inductionHypothesis (fun client => (keeps client).2) still

/-- Two clients that obtain a query for one key obtain the same, unless everything is forgotten
between the two moments. -/
theorem Run.obtains_eq
    {other : Client} {between later : List (Event Client)}
    (run :
      Run state (.obtains client key stored :: (between ++ .obtains other key held :: later)) final)
    (keeps : ∀ client, .clears client ∉ between) :
    stored = held := by
  -- The first moment leaves an entry, which the second one still finds.
  obtain _ | ⟨obtains, run⟩ := run
  obtain ⟨middle, toMiddle, _ | ⟨obtainsAgain, _⟩⟩ := run_append_iff.1 run
  have found := toMiddle.lookup_of_lookup keeps obtains.lookup_of_obtains
  exact (obtainsAgain.eq_of_lookup found).symm

/-- A client that misses a key can have compiled it while nothing else happens. -/
theorem run_make
    (idle : state.phase client = .idle) (absent : state.cache.lookup key = none)
    (compiled : key.compile = .ok query) :
    Run state [.proceeds client, .proceeds client] (state.make client key query) := by
  have misses := Step.miss idle absent
  have compiles := Step.compile (phase_enter_self state client (.missed key)) compiled
  rw [make_enter] at compiles
  exact .cons misses (.cons compiles .nil)

/-- A request that no other client disturbs is `getOrCompile`, and it obtains what that answers. -/
theorem exists_run_getOrCompile (idle : state.phase client = .idle) (key : Key) :
    ∃ events,
      Run state events { state with cache := (state.cache.getOrCompile key).2 } ∧
      ∀ stored,
        .obtains client key stored ∈ events ↔ (state.cache.getOrCompile key).1 = .ok stored := by
  cases found : state.cache.lookup key with
  | some held =>
      refine ⟨[.obtains client key held], ?_⟩
      rw [getOrCompile_of_lookup found]
      exact ⟨.cons (.hit idle found) .nil, by simp [eq_comm]⟩
  | none =>
      rw [getOrCompile_of_absent found]
      cases compiled : key.compile with
      | error error =>
          have misses := Step.miss idle found
          have fails := Step.fail (phase_enter_self state client (.missed key)) compiled
          rw [enter_enter, ← idle, enter_phase] at fails
          exact ⟨_, .cons misses (.cons fails .nil), by simp⟩
      | ok query =>
          have makes := run_make idle found compiled
          have keeps := Step.keep (phase_make_self state client key query)
          rw [keep_make, ← idle, enter_phase] at keeps
          simp only [remember_of_absent found]
          exact ⟨_, run_append_iff.2 ⟨_, makes, .cons keeps .nil⟩, by simp [eq_comm, make]⟩

/-- Two clients can both miss a key and both compile it before either keeps its query. Both obtain
the query of the one that keeps first. -/
theorem exists_run_compiled_twice
    (different : other ≠ client)
    (idle : state.phase client = .idle) (otherIdle : state.phase other = .idle)
    (absent : state.cache.lookup key = none) (compiled : key.compile = .ok query) :
    ∃ middle final own held,
      Run state [.proceeds client, .proceeds client, .proceeds other, .proceeds other] middle ∧
      middle.phase client = .compiled key own ∧ middle.phase other = .compiled key held ∧
      Run middle [.obtains other key held, .obtains client key held] final := by
  let once := state.make client key query
  let twice := once.make other key query
  have makes : Run state [.proceeds client, .proceeds client] once :=
    run_make idle absent compiled
  have stillIdle : once.phase other = .idle := by
    rwa [phase_make_of_ne state key query different]
  have makesAgain : Run once [.proceeds other, .proceeds other] twice :=
    run_make stillIdle absent compiled
  have own : twice.phase client = .compiled key (state.cache.number query).1 := by
    rw [phase_make_of_ne once key query different.symm, phase_make_self]
  have held : twice.phase other = .compiled key (once.cache.number query).1 :=
    phase_make_self once other key query
  have stillAbsent : twice.cache.lookup key = none := absent
  have first := Step.keep held
  rw [insertIfAbsent_of_absent stillAbsent] at first
  have stillOwn : (twice.keep other key (once.cache.number query).1).phase client =
      .compiled key (state.cache.number query).1 := by
    rwa [phase_keep_of_ne twice key _ different.symm]
  have second := Step.keep stillOwn
  rw [insertIfAbsent_of_lookup first.lookup_of_obtains] at second
  exact ⟨twice, _, _, _, run_append_iff.2 ⟨once, makes, makesAgain⟩, own, held,
    .cons first (.cons second .nil)⟩

/-- However the steps of the clients of a new cache interleave, each entry is the compilation of its
own key, it stays while nothing is forgotten, and what is obtained for a key at two moments is one
stored query unless everything was forgotten between them. What a client has compiled and not kept
has a number that no entry and no other client's query has; the client obtains it only where its key
has no entry, and that entry where there is one. -/
theorem Run.clients_share_entries (run : Run start events state) :
    (∀ entry ∈ state.cache.entries, entry.key.compile = .ok entry.stored.query) ∧
    (∀ more final, Run state more final → (∀ client, .clears client ∉ more) →
      ∀ key stored, state.cache.lookup key = some stored →
        final.cache.lookup key = some stored) ∧
    (∀ before between later client other key first second,
      events =
        before ++ .obtains client key first :: (between ++ .obtains other key second :: later) →
      (∀ client, .clears client ∉ between) →
        first = second) ∧
    (∀ client key own, state.phase client = .compiled key own →
      key.compile = .ok own.query ∧
      (∀ other held, state.cache.lookup other = some held → held.serial ≠ own.serial) ∧
      (∀ other asked held, other ≠ client → state.phase other = .compiled asked held →
        held.serial ≠ own.serial) ∧
      ∀ stored next, Step state (.obtains client key stored) next →
        stored = (state.cache.lookup key).getD own) := by
  have consistent := run.consistent consistent_start
  refine ⟨consistent.sound.compiled, ?_, ?_, ?_⟩
  · intro more final continued keeps key stored found
    exact continued.lookup_of_lookup keeps found
  · intro before between later client other key first second split keeps
    rw [split] at run
    obtain ⟨middle, _, fromMiddle⟩ := run_append_iff.1 run
    exact fromMiddle.obtains_eq keeps
  · intro client key own compiled
    refine ⟨consistent.compiled (.client compiled), ?_, ?_, ?_⟩
    · intro other held found
      exact consistent.serial_ne compiled (.cache found) nofun
    · intro other asked held different otherCompiled
      apply consistent.serial_ne compiled (.client otherCompiled)
      exact fun same => different (Option.some.inj same)
    · intro stored next step
      exact step.eq_of_compiled compiled

/-- Two clients that both compile a key obtain one stored query, which is the one that is kept
first: the other query, with another number, is not answered. -/
theorem Run.clients_share_entries_compiled_twice :
    ∃ middle final own held first second,
      Run (start : Shared Bool)
        [.proceeds true, .proceeds true, .proceeds false, .proceeds false] middle ∧
      middle.phase true = .compiled ⟨.substring, "has A"⟩ own ∧
      middle.phase false = .compiled ⟨.substring, "has A"⟩ held ∧
      held.serial ≠ own.serial ∧
      Run middle
        [.obtains false ⟨.substring, "has A"⟩ first, .obtains true ⟨.substring, "has A"⟩ second]
        final ∧
      first = held ∧ first = second := by
  have compiled :
      Key.compile ⟨.substring, "has A"⟩ =
        .ok ⟨"has A", .substring, .unary .has (.literal "A")⟩ := by
    decide +kernel
  have different : false ≠ true := by
    decide
  have idle : ∀ client, (start : Shared Bool).phase client = .idle :=
    fun _ => rfl
  obtain ⟨middle, final, own, held, compiles, ownQuery, heldQuery, obtains⟩ :=
    exists_run_compiled_twice different (idle true) (idle false) (lookup_empty _) compiled
  have apart :=
    (compiles.clients_share_entries.2.2.2 true _ own ownQuery).2.2.1 false _ held different
      heldQuery
  have whole := run_append_iff.2 ⟨middle, compiles, obtains⟩
  have shared :=
    whole.clients_share_entries.2.2.1
      [.proceeds true, .proceeds true, .proceeds false, .proceeds false] [] []
  exact ⟨middle, final, own, held, held, held, compiles, ownQuery, heldQuery, apart, obtains, rfl,
    shared _ _ _ _ _ rfl nofun⟩

end Shared

end CatalogFilter.Cache
