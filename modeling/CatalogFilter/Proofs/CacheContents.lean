import CatalogFilter.Query.Cache

/-!
# What a cache can hold

A cache is changed in three ways only: a compiled query gets its serial number, it is kept, unless
its key has one already, and everything is forgotten. All preserve that each key has at most one
entry, that an entry holds the compilation of its own key, and that serial numbers are handed out in
increasing order. Keeping never replaces an entry, and what is compiled after everything was
forgotten has a new serial number.
-/

namespace CatalogFilter.Cache

namespace Key

/-- The compilation of the source text of a key under its profile. -/
def compile (key : Key) : Except EngineError Query :=
  Query.compile key.profile key.source

end Key

/-- What holds of every cache. -/
structure Sound (cache : Cache) : Prop where
  distinct : (cache.entries.map Entry.key).Nodup
  compiled : ∀ entry ∈ cache.entries, entry.key.compile = .ok entry.stored.query
  numbered : ∀ entry ∈ cache.entries, entry.stored.serial < cache.nextSerial

/-- Every serial number in use, and every one to come, is at least `least`. -/
structure NumbersFrom (least : Nat) (cache : Cache) : Prop where
  entries : ∀ entry ∈ cache.entries, least ≤ entry.stored.serial
  next : least ≤ cache.nextSerial

variable {cache : Cache} {key other : Key} {query : Query} {stored compiled : Stored}
  {least : Nat}

/-! ## Looking up -/

theorem mem_entries_of_lookup (found : cache.lookup key = some stored) :
    ⟨key, stored⟩ ∈ cache.entries := by
  obtain ⟨entry, first, rfl⟩ := Option.map_eq_some_iff.1 found
  have same : entry.key = key := by
    simpa using List.find?_some first
  have member := List.mem_of_find?_eq_some first
  rwa [← same]

theorem lookup_eq_none_iff :
    cache.lookup key = none ↔ key ∉ cache.entries.map Entry.key := by
  simp [lookup]

namespace Sound

theorem compile_of_lookup (sound : cache.Sound) (found : cache.lookup key = some stored) :
    key.compile = .ok stored.query :=
  sound.compiled _ (mem_entries_of_lookup found)

theorem serial_lt_of_lookup (sound : cache.Sound) (found : cache.lookup key = some stored) :
    stored.serial < cache.nextSerial :=
  sound.numbered _ (mem_entries_of_lookup found)

end Sound

theorem NumbersFrom.le_of_lookup
    (numbers : cache.NumbersFrom least)
    (found : cache.lookup key = some stored) :
    least ≤ stored.serial :=
  numbers.entries _ (mem_entries_of_lookup found)

/-! ## Numbering a query -/

theorem Sound.number (sound : cache.Sound) (query : Query) : (cache.number query).2.Sound where
  distinct := sound.distinct
  compiled := sound.compiled
  numbered entry member := Nat.lt_succ_of_lt (sound.numbered entry member)

theorem NumbersFrom.number (numbers : cache.NumbersFrom least) (query : Query) :
    (cache.number query).2.NumbersFrom least :=
  ⟨numbers.entries, Nat.le_succ_of_le numbers.next⟩

/-! ## Keeping a query -/

theorem insertIfAbsent_of_lookup
    (found : cache.lookup key = some stored) (compiled : Stored) :
    cache.insertIfAbsent key compiled = (stored, cache) := by
  rw [insertIfAbsent, found]

theorem insertIfAbsent_of_absent (absent : cache.lookup key = none) (compiled : Stored) :
    cache.insertIfAbsent key compiled =
      (compiled, { cache with entries := ⟨key, compiled⟩ :: cache.entries }) := by
  rw [insertIfAbsent, absent]

/-- Keeping a query never replaces a stored one. -/
theorem lookup_insertIfAbsent_of_lookup
    (found : cache.lookup other = some stored) (key : Key) (compiled : Stored) :
    (cache.insertIfAbsent key compiled).2.lookup other = some stored := by
  by_cases same : other = key
  · rw [same] at found ⊢
    rw [insertIfAbsent_of_lookup found]
    exact found
  · rw [lookup_insertIfAbsent_of_ne cache compiled same]
    exact found

theorem nextSerial_insertIfAbsent (cache : Cache) (key : Key) (compiled : Stored) :
    (cache.insertIfAbsent key compiled).2.nextSerial = cache.nextSerial := by
  rw [insertIfAbsent]
  split <;> rfl

theorem Sound.insertIfAbsent
    (sound : cache.Sound) (compiles : key.compile = .ok compiled.query)
    (numbered : compiled.serial < cache.nextSerial) :
    (cache.insertIfAbsent key compiled).2.Sound := by
  cases found : cache.lookup key with
  | some stored =>
      rw [insertIfAbsent_of_lookup found]
      exact sound
  | none =>
      rw [insertIfAbsent_of_absent found]
      constructor
      · exact List.nodup_cons.2 ⟨lookup_eq_none_iff.1 found, sound.distinct⟩
      · exact List.forall_mem_cons.2 ⟨compiles, sound.compiled⟩
      · exact List.forall_mem_cons.2 ⟨numbered, sound.numbered⟩

theorem NumbersFrom.insertIfAbsent
    (numbers : cache.NumbersFrom least) (key : Key) (above : least ≤ compiled.serial) :
    (cache.insertIfAbsent key compiled).2.NumbersFrom least := by
  cases found : cache.lookup key with
  | some stored =>
      rw [insertIfAbsent_of_lookup found]
      exact numbers
  | none =>
      rw [insertIfAbsent_of_absent found]
      exact ⟨List.forall_mem_cons.2 ⟨above, numbers.entries⟩, numbers.next⟩

/-! ## Remembering a query -/

/-- The stored query of a key and the cache with it. A key without one gets `query`, with the next
number. -/
def remember (cache : Cache) (key : Key) (query : Query) : Stored × Cache :=
  match cache.lookup key with
  | some stored => (stored, cache)
  | none => (cache.number query).2.insertIfAbsent key (cache.number query).1

theorem remember_of_lookup (found : cache.lookup key = some stored) (query : Query) :
    cache.remember key query = (stored, cache) := by
  rw [remember, found]

theorem remember_of_absent (absent : cache.lookup key = none) (query : Query) :
    cache.remember key query =
      (cache.number query).2.insertIfAbsent key (cache.number query).1 := by
  rw [remember, absent]

theorem lookup_remember_self (cache : Cache) (key : Key) (query : Query) :
    (cache.remember key query).2.lookup key = some (cache.remember key query).1 := by
  cases found : cache.lookup key with
  | some stored =>
      rw [remember_of_lookup found]
      exact found
  | none =>
      rw [remember_of_absent found]
      exact lookup_insertIfAbsent_self _ key _

theorem lookup_remember_of_ne
    (cache : Cache) (query : Query) (different : other ≠ key) :
    (cache.remember key query).2.lookup other = cache.lookup other := by
  cases found : cache.lookup key with
  | some stored =>
      rw [remember_of_lookup found]
  | none =>
      rw [remember_of_absent found, lookup_insertIfAbsent_of_ne _ _ different, lookup_number]

theorem lookup_remember_of_lookup
    (found : cache.lookup other = some stored) (key : Key) (query : Query) :
    (cache.remember key query).2.lookup other = some stored := by
  by_cases same : other = key
  · rw [same] at found ⊢
    rw [remember_of_lookup found]
    exact found
  · rw [lookup_remember_of_ne cache query same]
    exact found

theorem Sound.remember
    (sound : cache.Sound) (compiles : key.compile = .ok query) :
    (cache.remember key query).2.Sound := by
  cases found : cache.lookup key with
  | some stored =>
      rw [remember_of_lookup found]
      exact sound
  | none =>
      rw [remember_of_absent found]
      exact (sound.number query).insertIfAbsent compiles (Nat.lt_succ_self _)

/-- The query that is remembered is the one that was there or the one that is given. -/
theorem Sound.query_remember
    (sound : cache.Sound) (compiles : key.compile = .ok query) :
    (cache.remember key query).1.query = query := by
  cases found : cache.lookup key with
  | some stored =>
      have same := (sound.compile_of_lookup found).symm.trans compiles
      rw [remember_of_lookup found]
      exact Except.ok.inj same
  | none =>
      have stillAbsent : (cache.number query).2.lookup key = none := found
      rw [remember_of_absent found, insertIfAbsent_of_absent stillAbsent]
      rfl

theorem NumbersFrom.remember
    (numbers : cache.NumbersFrom least) (key : Key) (query : Query) :
    (cache.remember key query).2.NumbersFrom least := by
  cases found : cache.lookup key with
  | some stored =>
      rw [remember_of_lookup found]
      exact numbers
  | none =>
      rw [remember_of_absent found]
      exact (numbers.number query).insertIfAbsent key numbers.next

theorem nextSerial_le_remember (cache : Cache) (key : Key) (query : Query) :
    cache.nextSerial ≤ (cache.remember key query).2.nextSerial := by
  cases found : cache.lookup key with
  | some stored =>
      exact Nat.le_of_eq (by rw [remember_of_lookup found])
  | none =>
      rw [remember_of_absent found, nextSerial_insertIfAbsent]
      exact Nat.le_succ _

/-! ## Forgetting -/

theorem sound_empty : empty.Sound :=
  ⟨List.nodup_nil, nofun, nofun⟩

theorem sound_clear (cache : Cache) : cache.clear.Sound :=
  ⟨List.nodup_nil, nofun, nofun⟩

/-- What is kept from now on has serial numbers that are still to come. -/
theorem numbersFrom_clear (cache : Cache) : cache.clear.NumbersFrom cache.nextSerial :=
  ⟨nofun, Nat.le_refl _⟩

theorem NumbersFrom.clear
    (numbers : cache.NumbersFrom least) :
    cache.clear.NumbersFrom least :=
  ⟨nofun, numbers.next⟩

/-! ## Compiling on demand -/

theorem getOrCompile_of_lookup (found : cache.lookup key = some stored) :
    cache.getOrCompile key = (.ok stored, cache) := by
  rw [getOrCompile, found]

theorem getOrCompile_of_absent (absent : cache.lookup key = none) :
    cache.getOrCompile key =
      match key.compile with
      | .error error => (.error error, cache)
      | .ok query => (.ok (cache.remember key query).1, (cache.remember key query).2) := by
  simp only [remember_of_absent absent]
  rw [getOrCompile, absent]
  rfl

/-- A sound cache answers what compiling answers, and it remembers what was compiled. -/
theorem Sound.getOrCompile_eq (sound : cache.Sound) (key : Key) :
    cache.getOrCompile key =
      match key.compile with
      | .error error => (.error error, cache)
      | .ok query => (.ok (cache.remember key query).1, (cache.remember key query).2) := by
  cases found : cache.lookup key with
  | some stored =>
      rw [getOrCompile_of_lookup found, sound.compile_of_lookup found]
      simp only [remember_of_lookup found]
  | none =>
      exact getOrCompile_of_absent found

end CatalogFilter.Cache
