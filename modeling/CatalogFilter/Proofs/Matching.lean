import CatalogFilter.Catalog.Selection

/-!
# What is selected from lines

A line has a verdict if it is an object and the filter answers for the record; else it has an error
of its own. Lines are looked at one by one, and the texts of those that pass are gathered. The
gathering is nothing but a filter: a selection succeeds exactly when every line has a verdict,
whatever the others are, and then it holds the texts of the lines that pass, in the order of the
lines.
-/

namespace CatalogFilter.Filter

/-- The line is an object, and the filter gives this verdict on its record. -/
def HasVerdict (filter : Filter) (line : Line) (verdict : Bool) : Prop :=
  ∃ fields,
    Json.parse? line.text = some (.object fields) ∧
      filter.passes ⟨line, fields⟩ = .ok verdict

/-- The line is bad on its own: it is no value, the value is no object, or the filter fails on its
record. -/
inductive HasError (filter : Filter) (line : Line) : SelectError → Prop
  | invalidJson :
      Json.parse? line.text = none →
        HasError filter line (.record (.invalidJson line.number))
  | notAnObject {value : Json} :
      Json.parse? line.text = some value → value.kind ≠ .object →
        HasError filter line (.record (.notAnObject line.number value.kind))
  | evaluation {fields : List (String × Json)} {error : EvalError} :
      Json.parse? line.text = some (.object fields) →
        filter.passes ⟨line, fields⟩ = .error error →
          HasError filter line (.evaluation filter.name line.number error)

/-- Every line is a record with a verdict. -/
def Decides (filter : Filter) (lines : List Line) : Prop :=
  ∀ line ∈ lines, ∃ verdict, filter.HasVerdict line verdict

variable {filter : Filter} {line : Line} {lines : List Line} {verdict : Bool}

instance : Decidable (filter.HasVerdict line verdict) :=
  match found : Json.parse? line.text with
  | some (.object fields) =>
      decidable_of_iff (filter.passes ⟨line, fields⟩ = .ok verdict) (by simp [HasVerdict, found])
  | none | some .null | some (.boolean _) | some (.number _) | some (.string _) | some (.array _) =>
      isFalse (by simp [HasVerdict, found])

/-- The texts of the lines that pass. -/
def matching (filter : Filter) (lines : List Line) : List String :=
  (lines.filter fun line => filter.HasVerdict line true).map Line.text

/-! ## One line -/

theorem HasVerdict.passesLine_eq (has : filter.HasVerdict line verdict) :
    filter.passesLine line = .ok verdict := by
  obtain ⟨fields, found, passed⟩ := has
  simp only [passesLine, Record.ofLine, found, passed]

theorem HasError.passesLine_eq {error : SelectError} (has : filter.HasError line error) :
    filter.passesLine line = .error error := by
  cases has with
  | invalidJson found =>
      simp only [passesLine, Record.ofLine, found]
  | @notAnObject value found noObject =>
      cases value with
      | object fields =>
          exact absurd rfl noObject
      | _ =>
          simp only [passesLine, Record.ofLine, found]
  | evaluation found failed =>
      simp only [passesLine, Record.ofLine, found, failed]

theorem hasVerdict_or_hasError (filter : Filter) (line : Line) :
    (∃ verdict, filter.HasVerdict line verdict) ∨ ∃ error, filter.HasError line error := by
  cases found : Json.parse? line.text with
  | none =>
      exact .inr ⟨_, .invalidJson found⟩
  | some value =>
      cases value with
      | object fields =>
          cases passed : filter.passes ⟨line, fields⟩ with
          | error error =>
              exact .inr ⟨_, .evaluation found passed⟩
          | ok verdict =>
              exact .inl ⟨verdict, fields, found, passed⟩
      | _ =>
          exact .inr ⟨_, .notAnObject found nofun⟩

theorem passesLine_eq_ok_iff :
    filter.passesLine line = .ok verdict ↔ filter.HasVerdict line verdict := by
  constructor
  · intro decided
    rcases filter.hasVerdict_or_hasError line with ⟨other, has⟩ | ⟨error, has⟩
    · rw [has.passesLine_eq] at decided
      cases decided
      exact has
    · rw [has.passesLine_eq] at decided
      cases decided
  · exact HasVerdict.passesLine_eq

theorem passesLine_eq_error_iff {error : SelectError} :
    filter.passesLine line = .error error ↔ filter.HasError line error := by
  constructor
  · intro failed
    rcases filter.hasVerdict_or_hasError line with ⟨verdict, has⟩ | ⟨other, has⟩
    · rw [has.passesLine_eq] at failed
      cases failed
    · rw [has.passesLine_eq] at failed
      cases failed
      exact has
  · exact HasError.passesLine_eq

theorem HasVerdict.unique
    {other : Bool} (has : filter.HasVerdict line verdict)
    (hasOther : filter.HasVerdict line other) :
    verdict = other :=
  Except.ok.inj (has.passesLine_eq.symm.trans hasOther.passesLine_eq)

/-- A line that is bad on its own has no verdict. -/
theorem HasError.not_hasVerdict
    {error : SelectError} (has : filter.HasError line error) :
    ¬ filter.HasVerdict line verdict := by
  intro hasVerdict
  cases has.passesLine_eq.symm.trans hasVerdict.passesLine_eq

/-! ## Lines in order -/

theorem decides_cons_iff :
    filter.Decides (line :: lines) ↔
      (∃ verdict, filter.HasVerdict line verdict) ∧ filter.Decides lines := by
  simp [Decides]

theorem matching_cons (has : filter.HasVerdict line verdict) (lines : List Line) :
    filter.matching (line :: lines) =
      if verdict then line.text :: filter.matching lines else filter.matching lines := by
  cases verdict with
  | false =>
      have refused : ¬ filter.HasVerdict line true := by
        intro passes
        cases has.unique passes
      simp [matching, refused]
  | true =>
      simp [matching, has]

theorem selectFrom_eq_ok_iff {before selected : List String} :
    filter.selectFrom before lines = .ok selected ↔
      filter.Decides lines ∧ selected = before.reverse ++ filter.matching lines := by
  induction lines generalizing before with
  | nil =>
      simp [selectFrom, Decides, matching, eq_comm]
  | cons line lines inductionHypothesis =>
      rw [selectFrom, decides_cons_iff]
      cases decided : filter.passesLine line with
      | error error =>
          have has := passesLine_eq_error_iff.1 decided
          simp [has.not_hasVerdict]
      | ok verdict =>
          have has := passesLine_eq_ok_iff.1 decided
          have hasOne : ∃ verdict, filter.HasVerdict line verdict := ⟨verdict, has⟩
          rw [matching_cons has]
          cases verdict with
          | false =>
              simp [inductionHypothesis, hasOne]
          | true =>
              simp [inductionHypothesis, hasOne]

/-- A selection succeeds when every line has a verdict, and gives the texts of those that pass. -/
theorem select_eq_ok_iff {selected : List String} :
    filter.select lines = .ok selected ↔
      filter.Decides lines ∧ selected = filter.matching lines := by
  rw [select, selectFrom_eq_ok_iff, List.reverse_nil, List.nil_append]

theorem exists_select_eq_ok_iff_decides :
    (∃ selected, filter.select lines = .ok selected) ↔ filter.Decides lines := by
  simp [select_eq_ok_iff]

end CatalogFilter.Filter
