import CatalogFilter.Proofs.InTurn
import CatalogFilter.Proofs.Matching
import Mathlib.Data.List.ReduceOption

/-!
# Selecting in parts

Lines can be cut into parts, the parts into smaller ones, and all of them looked at at the same
time. What is found in the parts is joined in order, and a part that fails fails the whole. If
several fail, it is not told which of their errors is answered. The main facts are that this is all
that is not told, and that every answer is the one of the lines in turn, or the error of a line that
is bad on its own.
-/

namespace CatalogFilter

/-! ## Steps for parts of a list -/

section Collecting

variable {ε α β : Type} {step : α → Except ε β} {items : List α} {answer : Except ε (List β)}

/-- What can come of a step for each item when the items are cut into parts. The last two
constructors say nothing of the other part: it may be given up when one has failed. -/
inductive Collects (step : α → Except ε β) : List α → Except ε (List β) → Prop where
  | none : Collects step [] (.ok [])
  | one (item : α) : Collects step [item] ((step item).map ([·]))
  | joined {first second : List α} {results others : List β} :
      Collects step first (.ok results) → Collects step second (.ok others) →
        Collects step (first ++ second) (.ok (results ++ others))
  | firstFails {first : List α} {error : ε} (second : List α) :
      Collects step first (.error error) → Collects step (first ++ second) (.error error)
  | secondFails (first : List α) {second : List α} {error : ε} :
      Collects step second (.error error) → Collects step (first ++ second) (.error error)

/-- The answer has a result for each item in order, or it is the error of some item. -/
def Accounts (step : α → Except ε β) (items : List α) : Except ε (List β) → Prop
  | .ok results => List.Forall₂ (fun item result => step item = .ok result) items results
  | .error error => ∃ item ∈ items, step item = .error error

theorem Collects.accounts (collected : Collects step items answer) :
    Accounts step items answer := by
  induction collected with
  | none =>
      exact .nil
  | one item =>
      cases taken : step item with
      | error error =>
          exact ⟨item, List.mem_singleton_self item, taken⟩
      | ok result =>
          exact .cons taken .nil
  | joined _ _ first second =>
      exact List.rel_append first second
  | firstFails second _ inductionHypothesis =>
      obtain ⟨item, member, failed⟩ := inductionHypothesis
      exact ⟨item, List.mem_append_left second member, failed⟩
  | secondFails first _ inductionHypothesis =>
      obtain ⟨item, member, failed⟩ := inductionHypothesis
      exact ⟨item, List.mem_append_right first member, failed⟩

theorem Collects.of_accounts (accounts : Accounts step items answer) :
    Collects step items answer := by
  cases answer with
  | error error =>
      obtain ⟨item, member, failed⟩ := accounts
      obtain ⟨before, after, rfl⟩ := List.append_of_mem member
      have alone : Collects step [item] ((step item).map ([·])) := .one item
      rw [failed] at alone
      exact .secondFails before (.firstFails after alone)
  | ok results =>
      induction accounts with
      | nil =>
          exact .none
      | @cons item result _ _ taken _ inductionHypothesis =>
          have alone : Collects step [item] ((step item).map ([·])) := .one item
          rw [taken] at alone
          exact alone.joined inductionHypothesis

/-- Taking the items in turn is one of the ways. -/
theorem collects_mapM (step : α → Except ε β) (items : List α) :
    Collects step items (items.mapM step) := by
  apply Collects.of_accounts
  cases taken : items.mapM step with
  | error error =>
      obtain ⟨before, item, after, rfl, _, failed⟩ := mapM_eq_error_iff.1 taken
      exact ⟨item, List.mem_append_right before List.mem_cons_self, failed⟩
  | ok results =>
      exact mapM_eq_ok_iff.1 taken

end Collecting

/-- The line that an error is about. -/
def SelectError.line : SelectError → Nat
  | .record (.invalidJson line) => line
  | .record (.notAnObject line _) => line
  | .evaluation _ line _ => line

namespace Filter

variable {filter : Filter} {line : Line} {lines : List Line} {error : SelectError}

/-- The text of a line that passes. -/
def lineText (filter : Filter) (line : Line) : Except SelectError (Option String) :=
  (filter.passesLine line).map fun passes => if passes then some line.text else none

/-- What can come of a selection when the lines are looked at in parts. -/
def SelectsInParts (filter : Filter) (lines : List Line)
    (answer : Except SelectError (List String)) : Prop :=
  ∃ collected, Collects filter.lineText lines collected ∧
    collected.map List.reduceOption = answer

/-! ## One line -/

theorem HasError.line_eq (has : filter.HasError line error) : error.line = line.number := by
  cases has <;> rfl

theorem lineText_of_hasVerdict {verdict : Bool} (has : filter.HasVerdict line verdict) :
    filter.lineText line = .ok (if verdict then some line.text else none) := by
  rw [lineText, has.passesLine_eq]
  rfl

theorem lineText_eq_error_iff :
    filter.lineText line = .error error ↔ filter.HasError line error := by
  rw [lineText, map_eq_error_iff, passesLine_eq_error_iff]

theorem exists_lineText_eq_ok_iff :
    (∃ text, filter.lineText line = .ok text) ↔
      ∃ verdict, filter.HasVerdict line verdict := by
  simp only [lineText, map_eq_ok_iff, passesLine_eq_ok_iff]
  constructor
  · intro ⟨_, verdict, has, _⟩
    exact ⟨verdict, has⟩
  · intro ⟨verdict, has⟩
    exact ⟨_, verdict, has, rfl⟩

/-! ## Lines in turn -/

theorem selectFrom_eq_mapM (before : List String) (lines : List Line) :
    filter.selectFrom before lines =
      (lines.mapM filter.lineText).map fun texts => before.reverse ++ texts.reduceOption := by
  induction lines generalizing before with
  | nil =>
      simp [selectFrom, pure, Except.pure, Except.map]
  | cons line lines inductionHypothesis =>
      rw [selectFrom]
      cases decided : filter.passesLine line with
      | error error =>
          have has := passesLine_eq_error_iff.1 decided
          rw [mapM_cons_of_error (lineText_eq_error_iff.2 has)]
          rfl
      | ok verdict =>
          have has := passesLine_eq_ok_iff.1 decided
          rw [mapM_cons_of_ok (lineText_of_hasVerdict has)]
          cases verdict with
          | false =>
              simp only [inductionHypothesis]
              cases lines.mapM filter.lineText <;> rfl
          | true =>
              simp only [inductionHypothesis]
              cases lines.mapM filter.lineText <;> simp [Except.map]

/-- A selection is the texts that its lines have in turn. -/
theorem select_eq_mapM (lines : List Line) :
    filter.select lines = (lines.mapM filter.lineText).map List.reduceOption := by
  rw [select, selectFrom_eq_mapM]
  rfl

/-- A selection fails with the error of the first line that has no verdict. -/
theorem select_eq_error_iff :
    filter.select lines = .error error ↔
      ∃ before line after,
        lines = before ++ line :: after ∧ filter.Decides before ∧
          filter.HasError line error := by
  rw [select_eq_mapM, map_eq_error_iff, mapM_eq_error_iff]
  simp only [lineText_eq_error_iff, exists_lineText_eq_ok_iff, Decides]

theorem select_singleton_eq_error_iff :
    filter.select [line] = .error error ↔ filter.HasError line error := by
  rw [← passesLine_eq_error_iff, select, selectFrom]
  cases filter.passesLine line with
  | error reason =>
      simp
  | ok verdict =>
      cases verdict <;> simp [selectFrom]

/-! ## Lines in parts -/

theorem selectsInParts_select (filter : Filter) (lines : List Line) :
    filter.SelectsInParts lines (filter.select lines) :=
  ⟨lines.mapM filter.lineText, collects_mapM filter.lineText lines, (select_eq_mapM lines).symm⟩

theorem selectsInParts_ok_iff {selected : List String} :
    filter.SelectsInParts lines (.ok selected) ↔ filter.select lines = .ok selected := by
  rw [select_eq_mapM]
  constructor
  · rintro ⟨collected, found, same⟩
    obtain ⟨texts, rfl, rfl⟩ := map_eq_ok_iff.1 same
    rw [mapM_eq_ok_iff.2 found.accounts]
    rfl
  · intro same
    exact ⟨_, collects_mapM filter.lineText lines, same⟩

theorem selectsInParts_error_iff :
    filter.SelectsInParts lines (.error error) ↔
      ∃ line ∈ lines, filter.HasError line error := by
  constructor
  · rintro ⟨collected, found, same⟩
    obtain rfl := map_eq_error_iff.1 same
    obtain ⟨line, member, failed⟩ := found.accounts
    exact ⟨line, member, lineText_eq_error_iff.1 failed⟩
  · rintro ⟨line, member, failed⟩
    exact ⟨.error error, .of_accounts ⟨line, member, lineText_eq_error_iff.2 failed⟩, rfl⟩

theorem exists_line_of_selectsInParts (answered : filter.SelectsInParts lines (.error error)) :
    ∃ line ∈ lines,
      filter.HasError line error ∧ filter.select [line] = .error error ∧
        error.line = line.number := by
  obtain ⟨line, member, has⟩ := selectsInParts_error_iff.1 answered
  exact ⟨line, member, has, select_singleton_eq_error_iff.2 has, has.line_eq⟩

/-- Where one line only is bad, its error is the only answer. -/
theorem eq_error_of_selectsInParts
    {answer : Except SelectError (List String)} (member : line ∈ lines)
    (bad : filter.select [line] = .error error)
    (others : ∀ other ∈ lines, other ≠ line → ∃ part, filter.select [other] = .ok part)
    (answered : filter.SelectsInParts lines answer) :
    answer = .error error := by
  cases answer with
  | ok selected =>
      have decided := (select_eq_ok_iff.1 (selectsInParts_ok_iff.1 answered)).1
      obtain ⟨verdict, hasVerdict⟩ := decided line member
      have has := select_singleton_eq_error_iff.1 bad
      exact absurd hasVerdict has.not_hasVerdict
  | error reason =>
      obtain ⟨other, otherMember, _, failed, _⟩ := exists_line_of_selectsInParts answered
      have same : other = line := by
        by_contra different
        obtain ⟨part, selected⟩ := others other otherMember different
        rw [failed] at selected
        cases selected
      rw [same, bad] at failed
      rw [Except.error.inj failed]

/-! ## Chunks -/

theorem decides_flatten_iff {chunks : List (List Line)} :
    filter.Decides chunks.flatten ↔ ∀ chunk ∈ chunks, filter.Decides chunk := by
  simp only [Decides, List.mem_flatten]
  constructor
  · intro decided chunk chunkMember line member
    exact decided line ⟨chunk, chunkMember, member⟩
  · rintro decided line ⟨chunk, chunkMember, member⟩
    exact decided chunk chunkMember line member

theorem matching_flatten (chunks : List (List Line)) :
    filter.matching chunks.flatten = (chunks.map filter.matching).flatten := by
  rw [matching, List.filter_flatten, List.map_flatten, List.map_map]
  rfl

theorem mapM_select {chunks : List (List Line)}
    (decided : ∀ chunk ∈ chunks, filter.Decides chunk) :
    chunks.mapM filter.select = .ok (chunks.map filter.matching) := by
  rw [mapM_eq_ok_iff, List.forall₂_map_right_iff, List.forall₂_same]
  exact fun chunk member => select_eq_ok_iff.2 ⟨decided chunk member, rfl⟩

/-- A selection succeeds exactly if each of its chunks does, and exactly if each of its lines is an
object that has a verdict. It joins what the chunks select, which is the texts of the lines that
have the verdict to pass, in their order. If it fails, it fails with the error that its first bad
line has on its own. However the lines are looked at in parts, what is selected is the same, and an
error is that of a line that is bad on its own, with its number; where one line only is bad, nothing
but its error is answered. -/
theorem select_agrees_with_chunks (filter : Filter) (chunks : List (List Line)) :
    ((∃ selected, filter.select chunks.flatten = .ok selected) ↔
      ∀ chunk ∈ chunks, ∃ part, filter.select chunk = .ok part) ∧
    ((∃ selected, filter.select chunks.flatten = .ok selected) ↔
      ∀ line ∈ chunks.flatten, ∃ fields verdict,
        Json.parse? line.text = some (.object fields) ∧
          filter.passes ⟨line, fields⟩ = .ok verdict) ∧
    (∀ selected, filter.select chunks.flatten = .ok selected →
      ∃ parts, chunks.mapM filter.select = .ok parts ∧ selected = parts.flatten ∧
        selected =
          (chunks.flatten.filter fun line => filter.HasVerdict line true).map Line.text) ∧
    (∀ error, filter.select chunks.flatten = .error error →
      ∃ before line after,
        chunks.flatten = before ++ line :: after ∧ filter.Decides before ∧
          filter.HasError line error ∧ filter.select [line] = .error error ∧
            error.line = line.number) ∧
    filter.SelectsInParts chunks.flatten (filter.select chunks.flatten) ∧
    (∀ selected, filter.SelectsInParts chunks.flatten (.ok selected) ↔
      filter.select chunks.flatten = .ok selected) ∧
    (∀ error, filter.SelectsInParts chunks.flatten (.error error) →
      ∃ line ∈ chunks.flatten,
        filter.HasError line error ∧ filter.select [line] = .error error ∧
          error.line = line.number) ∧
    (∀ line ∈ chunks.flatten, ∀ error, filter.select [line] = .error error →
      (∀ other ∈ chunks.flatten, other ≠ line → ∃ part, filter.select [other] = .ok part) →
        ∀ answer, filter.SelectsInParts chunks.flatten answer → answer = .error error) := by
  refine ⟨?_, ?_, ?_, ?_, selectsInParts_select filter _, fun _ => selectsInParts_ok_iff,
    fun _ => exists_line_of_selectsInParts,
    fun _ member _ bad others _ => eq_error_of_selectsInParts member bad others⟩
  · simp only [exists_select_eq_ok_iff_decides]
    exact decides_flatten_iff
  · rw [exists_select_eq_ok_iff_decides]
    exact forall₂_congr fun _ _ => exists_comm
  · intro selected succeeded
    obtain ⟨decided, rfl⟩ := select_eq_ok_iff.1 succeeded
    exact ⟨_, mapM_select (decides_flatten_iff.1 decided), matching_flatten chunks, rfl⟩
  · intro error failed
    obtain ⟨before, line, after, split, decided, has⟩ := select_eq_error_iff.1 failed
    exact ⟨before, line, after, split, decided, has, select_singleton_eq_error_iff.2 has,
      has.line_eq⟩

end Filter

end CatalogFilter
