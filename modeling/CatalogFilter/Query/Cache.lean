import CatalogFilter.Query

/-!
# The cache of compiled queries

One compiled query for each profile and source text. A query gets a serial number where it is
compiled, and no other query that was compiled for the same cache ever has it. So two answers are
the same compiled query exactly when their serials agree, also across `clear`. Looking up, keeping
and clearing are steps of their own; compiling happens between a look-up and the keeping.
-/

namespace CatalogFilter

namespace Cache

structure Key where
  profile : Profile
  source : String
deriving DecidableEq, Repr

/-- A compiled query and the serial number that it was given. -/
structure Stored where
  query : Query
  serial : Nat
deriving DecidableEq, Repr

structure Entry where
  key : Key
  stored : Stored
deriving DecidableEq, Repr

end Cache

/-- The stored queries, and the serial number of the next query to be compiled. -/
structure Cache where
  entries : List Cache.Entry
  nextSerial : Nat
deriving DecidableEq, Repr

namespace Cache

def empty : Cache :=
  ⟨[], 0⟩

/-- The stored query of a key. -/
def lookup (cache : Cache) (key : Key) : Option Stored :=
  (cache.entries.find? (·.key = key)).map Entry.stored

/-- Gives a query that was just compiled its serial number. -/
def number (cache : Cache) (query : Query) : Stored × Cache :=
  (⟨query, cache.nextSerial⟩, { cache with nextSerial := cache.nextSerial + 1 })

/-- Keeps a query under `key`, unless the key has a stored query already; answers the query that is
stored in the end. -/
def insertIfAbsent (cache : Cache) (key : Key) (compiled : Stored) : Stored × Cache :=
  match cache.lookup key with
  | some stored => (stored, cache)
  | none => (compiled, { cache with entries := ⟨key, compiled⟩ :: cache.entries })

/-- Forgets every stored query; serial numbers go on. -/
def clear (cache : Cache) : Cache :=
  { cache with entries := [] }

/-- The number of stored queries. -/
def size (cache : Cache) : Nat :=
  cache.entries.length

def isEmpty (cache : Cache) : Bool :=
  cache.size = 0

/-- The stored query of a key, compiled when it is not there yet. A failure stores nothing. -/
def getOrCompile (cache : Cache) (key : Key) : Except EngineError Stored × Cache :=
  match cache.lookup key with
  | some stored => (.ok stored, cache)
  | none =>
      match Query.compile key.profile key.source with
      | .error error => (.error error, cache)
      | .ok query =>
          let (compiled, cache) := cache.number query
          let (stored, cache) := cache.insertIfAbsent key compiled
          (.ok stored, cache)

@[simp]
theorem lookup_empty (key : Key) : empty.lookup key = none :=
  rfl

@[simp]
theorem lookup_clear (cache : Cache) (key : Key) : cache.clear.lookup key = none :=
  rfl

/-- Numbering a query changes no answer. -/
@[simp]
theorem lookup_number (cache : Cache) (query : Query) (key : Key) :
    (cache.number query).2.lookup key = cache.lookup key :=
  rfl

/-- After keeping a query, its key answers what was kept. -/
theorem lookup_insertIfAbsent_self
    (cache : Cache) (key : Key) (compiled : Stored) :
    (cache.insertIfAbsent key compiled).2.lookup key =
      some (cache.insertIfAbsent key compiled).1 := by
  unfold insertIfAbsent
  split
  · assumption
  · simp [lookup]

/-- Keeping a query changes no other key's answer. -/
theorem lookup_insertIfAbsent_of_ne
    (cache : Cache) {key other : Key} (compiled : Stored)
    (different : other ≠ key) :
    (cache.insertIfAbsent key compiled).2.lookup other = cache.lookup other := by
  unfold insertIfAbsent
  split
  · rfl
  · simp [lookup, different.symm]

end Cache

end CatalogFilter
