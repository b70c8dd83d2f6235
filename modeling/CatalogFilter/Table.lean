/-!
# Tables in the order of their keys

A table maps names to values. It lists each name once, in the order of code points, and a value put
under a name replaces the one before. The main statements say what a look-up finds after a value
was put in, that the table of pairs is in order, and that a look-up in an ordered table finds just
what is there.
-/

namespace CatalogFilter

abbrev Table (α : Type) :=
  List (String × α)

namespace Table

variable {α : Type}

/-- Puts a value under a name, at its place in the order. -/
def insert (name : String) (value : α) : Table α → Table α
  | [] => [(name, value)]
  | (first, held) :: rest =>
      if name = first then
        (name, value) :: rest
      else if name < first then
        (name, value) :: (first, held) :: rest
      else
        (first, held) :: insert name value rest

/-- The value under a name. -/
def get? : Table α → String → Option α
  | [], _ => none
  | (first, held) :: rest, name => if name = first then some held else get? rest name

def names (table : Table α) : List String :=
  table.map Prod.fst

/-- Of neighbours with one name the last. -/
def keepLast : List (String × α) → Table α
  | [] => []
  | [pair] => [pair]
  | pair :: next :: rest =>
      if pair.1 = next.1 then keepLast (next :: rest) else pair :: keepLast (next :: rest)

/-- Whether a pair may stand before another in a table. -/
def precedes (pair other : String × α) : Bool :=
  pair.1 ≤ other.1

/-- The table of pairs; of two pairs with one name the later counts. -/
def ofPairs (pairs : List (String × α)) : Table α :=
  keepLast (pairs.mergeSort precedes)

/-- The names stand in strictly increasing order. -/
def Ordered (table : Table α) : Prop :=
  table.names.Pairwise (· < ·)

instance (table : Table α) : Decidable (Ordered table) :=
  inferInstanceAs (Decidable (table.names.Pairwise (· < ·)))

/-! ## Look-ups -/

theorem get?_insert_self
    (name : String) (value : α) (table : Table α) :
    get? (insert name value table) name = some value := by
  induction table with
  | nil =>
      simp [insert, get?]
  | cons pair rest inductionHypothesis =>
      obtain ⟨first, held⟩ := pair
      unfold insert
      split
      · simp [get?]
      · rename_i different
        split
        · simp [get?]
        · simpa [get?, different] using inductionHypothesis

theorem get?_insert_of_ne
    {name other : String} (value : α) (table : Table α)
    (different : other ≠ name) :
    get? (insert name value table) other = get? table other := by
  induction table with
  | nil =>
      simp [insert, get?, different]
  | cons pair rest inductionHypothesis =>
      obtain ⟨first, held⟩ := pair
      unfold insert
      split
      · rename_i same
        subst same
        simp [get?, different]
      · split
        · simp [get?, different]
        · simp [get?, inductionHypothesis]

/-- In an ordered table a look-up finds what is there under the name. -/
theorem get?_eq_some_iff
    {table : Table α} {name : String} {value : α} (ordered : table.Ordered) :
    get? table name = some value ↔ (name, value) ∈ table := by
  induction table with
  | nil =>
      simp [get?]
  | cons pair rest inductionHypothesis =>
      obtain ⟨first, held⟩ := pair
      obtain ⟨below, orderedRest⟩ := List.pairwise_cons.1 ordered
      rw [get?, List.mem_cons]
      split
      · rename_i same
        subst same
        have notLater : (name, value) ∉ rest := fun later =>
          String.lt_irrefl name (below name (List.mem_map_of_mem later))
        simp [notLater, eq_comm]
      · rename_i different
        simp [different, inductionHypothesis orderedRest]

/-! ## Tables of pairs -/

theorem mem_names_keepLast
    {pairs : List (String × α)} {name : String} :
    name ∈ (keepLast pairs).names ↔ name ∈ pairs.map Prod.fst := by
  induction pairs with
  | nil =>
      simp [keepLast, names]
  | cons pair rest inductionHypothesis =>
      cases rest with
      | nil =>
          simp [keepLast, names]
      | cons next others =>
          unfold keepLast
          split
          · rename_i same
            rw [inductionHypothesis]
            simp [same]
          · simpa [names] using or_congr_right inductionHypothesis

theorem ordered_keepLast
    {pairs : List (String × α)}
    (sorted : pairs.Pairwise (fun pair other => precedes pair other = true)) :
    (keepLast pairs).Ordered := by
  induction pairs with
  | nil =>
      exact List.Pairwise.nil
  | cons pair rest inductionHypothesis =>
      cases rest with
      | nil =>
          simp [keepLast, Ordered, names]
      | cons next others =>
          obtain ⟨below, sortedRest⟩ := List.pairwise_cons.1 sorted
          unfold keepLast
          split
          · exact inductionHypothesis sortedRest
          · rename_i different
            refine List.pairwise_cons.2 ⟨?_, inductionHypothesis sortedRest⟩
            intro other member
            have pairBelowNext : pair.1 ≤ next.1 := by
              simpa [precedes] using below next List.mem_cons_self
            have nextBelowOther : next.1 ≤ other := by
              obtain ⟨held, heldMember, rfl⟩ :=
                List.mem_map.1 (mem_names_keepLast.1 member)
              rcases List.mem_cons.1 heldMember with here | later
              · subst here
                exact String.le_refl _
              · simpa [precedes] using (List.pairwise_cons.1 sortedRest).1 held later
            apply Decidable.byContradiction
            intro notBelow
            have otherBelowPair : other ≤ pair.1 := notBelow
            have nextBelowPair := String.le_trans nextBelowOther otherBelowPair
            exact different (String.le_antisymm pairBelowNext nextBelowPair)

theorem sorted_mergeSort_precedes (pairs : List (String × α)) :
    (pairs.mergeSort precedes).Pairwise (fun pair other => precedes pair other = true) := by
  apply List.pairwise_mergeSort
  · intro first second third
    simpa [precedes] using String.le_trans
  · intro first second
    simpa [precedes] using String.le_total first.1 second.1

theorem ordered_ofPairs (pairs : List (String × α)) : (ofPairs pairs).Ordered :=
  ordered_keepLast (sorted_mergeSort_precedes pairs)

end Table

/-- The distinct texts of a list in the order of code points. -/
def sortedDistinct (texts : List String) : List String :=
  (Table.ofPairs (texts.map (·, ()))).names

end CatalogFilter
