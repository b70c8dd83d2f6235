import CatalogFilter.Proofs.ReaderSoundness

/-!
# The nesting counter

The reader is written with levels that grow fewer from call to call. The counter in its cursor says
the same: a call is refused where the counter stands at the bound, and otherwise it counts one up,
reads on with calls that stand at that count, and counts one down. So the counter comes back to its
value however the reading ends, and it never passes the bound on the way. What was read is at least
one token, and the depth that is kept with the tree is the depth of the tree.
-/

namespace CatalogFilter

namespace Expr

/-- The two ways of reading do the same where the counter stands at `nesting`. -/
def AgreeAt (nesting : Nat) (read other : Nat → Cursor → Reading Measured) : Prop :=
  ∀ (threshold : Nat) (cursor : Cursor),
    cursor.nesting = nesting →
    read threshold cursor = other threshold cursor

theorem Reading.andThen_congr_of_nesting
    {α β : Type} {nesting : Nat} {reading : Reading α} {next other : α → Cursor → Reading β}
    (stays : reading.2.nesting = nesting)
    (same : ∀ (value : α) (cursor : Cursor),
      cursor.nesting = nesting → next value cursor = other value cursor) :
    reading.andThen next = reading.andThen other := by
  obtain ⟨answer, cursor⟩ := reading
  cases answer with
  | error error =>
      rfl
  | ok value =>
      exact same value cursor stays

section Congruence

variable {limit levels nesting : Nat} {profile : Profile}
variable {read other : Nat → Cursor → Reading Measured}

theorem readStart_congr
    (agree : AgreeAt nesting read other) (token : Token) {cursor : Cursor}
    (stands : cursor.nesting = nesting) :
    readStart limit profile read token cursor = readStart limit profile other token cursor := by
  have same (threshold : Nat) : read threshold cursor = other threshold cursor :=
    agree threshold cursor stands
  simp only [readStart, same]

theorem readMore_congr
    (agree : AgreeAt nesting read other) (token : Token) (left : Measured) {cursor : Cursor}
    (stands : cursor.nesting = nesting) :
    readMore limit profile read token left cursor =
      readMore limit profile other token left cursor := by
  have same (threshold : Nat) : read threshold cursor = other threshold cursor :=
    agree threshold cursor stands
  simp only [readMore, same]

theorem readOn_congr
    (steady : Steady levels read) (agree : AgreeAt nesting read other) (threshold : Nat) :
    ∀ (steps : Nat) (left : Measured) {cursor : Cursor},
      cursor.nesting = nesting →
        readOn limit profile read threshold steps left cursor =
          readOn limit profile other threshold steps left cursor
  | 0, _, _, _ =>
      rfl
  | steps + 1, left, cursor, stands => by
      rw [readOn, readOn]
      cases ahead : cursor.rest with
      | nil =>
          rfl
      | cons token rest =>
          have inside : Cursor.nesting { cursor with rest } = nesting := stands
          have stays :
              (readMore limit profile read token left { cursor with rest }).2.nesting = nesting :=
            (reaches_readMore steady token left _).nesting.trans stands
          simp only [← readMore_congr agree token left inside]
          rw [Reading.andThen_congr_of_nesting stays]
          intro longer after stands
          exact readOn_congr steady agree threshold steps longer stands

theorem readAbove_congr
    (steady : Steady levels read) (agree : AgreeAt nesting read other) (threshold : Nat)
    {cursor : Cursor} (stands : cursor.nesting = nesting) :
    readAbove limit profile read threshold cursor =
      readAbove limit profile other threshold cursor := by
  rw [readAbove, readAbove]
  cases ahead : cursor.rest with
  | nil =>
      rfl
  | cons token rest =>
      have inside : Cursor.nesting { cursor with rest } = nesting := stands
      have stays :
          (readStart limit profile read token { cursor with rest }).2.nesting = nesting :=
        (reaches_readStart steady token _).nesting.trans stands
      simp only [← readStart_congr agree token inside]
      apply Reading.andThen_congr_of_nesting stays
      intro left after stands
      exact readOn_congr steady agree threshold after.rest.length left stands

end Congruence

variable {profile : Profile} {threshold : Nat} {cursor : Cursor}

theorem read_of_exhausted (exhausted : maxDepth ≤ cursor.nesting) :
    read profile threshold cursor = (.error (.tooDeep cursor.offset), cursor) := by
  rw [read, Nat.sub_eq_zero_of_le exhausted]
  rfl

/-- Below the bound, an expression is read one up, by calls that look at the counter themselves. -/
theorem read_of_lt (room : cursor.nesting < maxDepth) :
    read profile threshold cursor =
      ((readAbove maxDepth profile (read profile) threshold cursor.enter).1,
        (readAbove maxDepth profile (read profile) threshold cursor.enter).2.leave) := by
  obtain ⟨levels, split⟩ : ∃ levels, maxDepth - cursor.nesting = levels + 1 :=
    Nat.exists_eq_add_one_of_ne_zero (by omega)
  have agree :
      AgreeAt (cursor.nesting + 1) (readWithin maxDepth profile levels) (read profile) := by
    intro inner place stands
    have left : maxDepth - place.nesting = levels := by
      omega
    rw [read, left]
  have steady := steady_readWithin maxDepth profile levels
  have entered : cursor.enter.nesting = cursor.nesting + 1 := rfl
  rw [read, split, readWithin, readAbove_congr steady agree threshold entered]

theorem reaches_read (profile : Profile) (threshold : Nat) (cursor : Cursor) :
    cursor.Reaches (maxDepth - cursor.nesting) (read profile threshold cursor).2 :=
  steady_readWithin maxDepth profile (maxDepth - cursor.nesting) threshold cursor

/-- Reading an expression enters a level, and the record of the deepest nesting shows it. -/
theorem lt_peak_read (cursor : Cursor) (room : cursor.nesting < maxDepth) :
    cursor.nesting < (read profile threshold cursor).2.peak := by
  have steady : Steady maxDepth (read profile) := by
    intro inner place
    exact (reaches_read profile inner place).mono (Nat.sub_le maxDepth place.nesting)
  have entered : cursor.nesting + 1 ≤ cursor.enter.peak :=
    Nat.le_max_right _ _
  have recorded :
      cursor.enter.peak ≤
        (readAbove maxDepth profile (read profile) threshold cursor.enter).2.peak :=
    (reaches_readAbove steady threshold cursor.enter).peak_le
  rw [read_of_lt room]
  exact Nat.le_trans entered recorded

/-- The counter never passes the bound, wherever it starts. -/
theorem peak_read_le (profile : Profile) (threshold : Nat) (cursor : Cursor) :
    (read profile threshold cursor).2.peak ≤ max cursor.peak maxDepth := by
  by_cases room : cursor.nesting < maxDepth
  · have levels : cursor.nesting + (maxDepth - cursor.nesting) = maxDepth :=
      Nat.add_sub_of_le (Nat.le_of_lt room)
    have bound := (reaches_read profile threshold cursor).peak_bound
    rwa [levels] at bound
  · rw [read_of_exhausted (Nat.not_lt.1 room)]
    exact Nat.le_max_left cursor.peak maxDepth

/-- What was read is a phrase, so it has tokens. -/
theorem exists_taken_of_read
    {result : Measured} {after : Cursor}
    (finished : read profile threshold cursor = (.ok result, after)) :
    ∃ taken,
      taken ≠ [] ∧ cursor.rest = taken ++ after.rest ∧
        result.depth = result.expr.depth ∧ result.depth ≤ maxDepth := by
  have positive : 0 < maxDepth := by
    decide
  obtain ⟨taken, nesting, split, derivation, _, depth, shallow⟩ :=
    sound_readWithin positive profile _ _ _ _ _ finished
  have longer : result.expr.depth ≤ taken.length := derivation.bounds_le_length.2
  have nonempty : 0 < taken.length :=
    Nat.lt_of_lt_of_le result.expr.depth_pos longer
  rw [← depth] at shallow
  exact ⟨taken, List.ne_nil_of_length_pos nonempty, split, depth, shallow⟩

/-- Reading an expression above any threshold, from any position in any tokens and at any count.
The counter comes back to its value, in success and in failure. On the way it goes one up if it
stands below the bound, and it never passes the bound. A success has moved forward in the tokens
and not beyond them, and it answers the depth of its tree, which keeps the bound. -/
theorem read_keeps_nesting
    (profile : Profile) (threshold : Nat) (tokens : List Token) (position nesting peak : Nat) :
    let reading := read profile threshold ⟨tokens.drop position, nesting, peak⟩
    reading.2.nesting = nesting ∧
    (nesting < maxDepth → nesting < reading.2.peak) ∧
    reading.2.peak ≤ max peak maxDepth ∧
    ∀ result, reading.1 = .ok result →
      (∃ next,
        position < next ∧ next ≤ tokens.length ∧ reading.2.rest = tokens.drop next) ∧
      result.depth = result.expr.depth ∧ result.depth ≤ maxDepth := by
  intro reading
  have restored : reading.2.nesting = nesting :=
    (reaches_read profile threshold _).nesting
  have recorded : nesting < maxDepth → nesting < reading.2.peak :=
    lt_peak_read ⟨tokens.drop position, nesting, peak⟩
  refine ⟨restored, recorded, peak_read_le profile threshold _, ?_⟩
  intro result succeeded
  have finished : reading = (.ok result, reading.2) :=
    Prod.ext succeeded rfl
  obtain ⟨taken, nonempty, split, depth, shallow⟩ := exists_taken_of_read finished
  have whole : tokens.drop position = taken ++ reading.2.rest := split
  have forward : 0 < taken.length := List.length_pos_iff.2 nonempty
  have within : position + taken.length ≤ tokens.length := by
    have lengths := congrArg List.length whole
    rw [List.length_drop, List.length_append] at lengths
    omega
  have left : reading.2.rest = tokens.drop (position + taken.length) := by
    rw [← List.drop_drop, whole, List.drop_left]
  exact ⟨⟨position + taken.length, by omega, within, left⟩, depth, shallow⟩

end Expr

end CatalogFilter
