import CatalogFilter.Proofs.Decimals

/-!
# How the evaluation of a query can end

An evaluator has an answer for any tree, and most of its errors are for trees that no query has.
The tree of a query fails in two ways only: a literal stands where a verdict is wanted, or a literal
is compared and is no number. A subject that the profile does not accept is refused before.
-/

namespace CatalogFilter

namespace Profile

/-- What kind of value the literals of a query are. -/
def literalKind : Profile → ValueKind
  | .substring | .setMembership => .string
  | .numericYear => .integer

end Profile

namespace Expr

/-- The texts of the literals in a tree, from left to right. -/
def literals : Expr → List String
  | .literal text => [text]
  | .unary _ operand => operand.literals
  | .binary _ left right => left.literals ++ right.literals

end Expr

namespace Asker

/-- Who asks for a verdict in the tree of a query. -/
def ofVerdicts : List Asker :=
  [.filter, .operator .not, .operator .and, .operator .or]

end Asker

/-- The failures that the tree of a query leaves possible. -/
inductive MayFail (profile : Profile) (expr : Expr) : EvalError → Prop
  | notBoolean {asker : Asker} :
      asker ∈ Asker.ofVerdicts →
      MayFail profile expr (.notBoolean asker profile.literalKind)
  | notAnInteger {text : String} :
      profile = .numericYear →
      text ∈ expr.literals →
      text ≠ Profile.yearName →
      ¬ Text.IsInt64 text →
      MayFail profile expr (.notAnInteger text)

theorem MayFail.mono
    {profile : Profile} {part whole : Expr} {error : EvalError}
    (failure : MayFail profile part error)
    (within : part.literals ⊆ whole.literals) :
    MayFail profile whole error := by
  cases failure with
  | notBoolean asks =>
      exact .notBoolean asks
  | notAnInteger numeric member notYear notNumber =>
      exact .notAnInteger numeric (within member) notYear notNumber

namespace Counted

variable {α β : Type} {counted : Counted α} {next : α → Nat → Counted β}

theorem andThen_eq_ok_iff {result : β} :
    (counted.andThen next).1 = .ok result ↔
      ∃ value checks, counted = (.ok value, checks) ∧ (next value checks).1 = .ok result := by
  obtain ⟨answer, checks⟩ := counted
  cases answer with
  | error error =>
      simp
  | ok value =>
      simp [and_assoc]

theorem andThen_eq_error_iff {error : EvalError} :
    (counted.andThen next).1 = .error error ↔
      counted.1 = .error error ∨
        ∃ value checks, counted = (.ok value, checks) ∧ (next value checks).1 = .error error := by
  obtain ⟨answer, checks⟩ := counted
  cases answer with
  | error error =>
      simp
  | ok value =>
      simp [and_assoc]

theorem toValue_eq_ok_iff {counted : Counted Bool} {value : Value} :
    counted.toValue.1 = .ok value ↔ ∃ holds, counted.1 = .ok holds ∧ value = .verdict holds := by
  obtain ⟨answer, checks⟩ := counted
  cases answer with
  | error error =>
      simp [toValue]
  | ok holds =>
      simp [toValue, eq_comm]

theorem toValue_eq_error_iff {counted : Counted Bool} {error : EvalError} :
    counted.toValue.1 = .error error ↔ counted.1 = .error error := by
  simp [toValue, andThen_eq_error_iff]

/-- Only a value that is no verdict makes a new failure where a verdict is wanted. -/
theorem asVerdict_eq_error_iff
    {asker : Asker} {counted : Counted Value} {error : EvalError} :
    (counted.asVerdict asker).1 = .error error ↔
      counted.1 = .error error ∨
        ∃ value, counted.1 = .ok value ∧ value.kind ≠ .boolean ∧
          error = .notBoolean asker value.kind := by
  obtain ⟨answer, checks⟩ := counted
  cases answer with
  | error error =>
      simp [asVerdict]
  | ok value =>
      cases value <;> simp [asVerdict, Value.kind, eq_comm]

end Counted

namespace Expr

open Counted

variable {profile : Profile} {subject : Subject}

/-! ## What a node stands for -/

theorem kind_literalValue
    {text : String} {value : Value}
    (found : profile.literalValue text subject = .ok value) :
    value.kind = profile.literalKind := by
  unfold Profile.literalValue at found
  split at found
  · cases found
    rfl
  · cases found
    rfl
  · split at found <;> split at found <;> cases found <;> rfl

/-- An operator makes a verdict, whatever it stands over. -/
theorem kind_value_unary
    {op : Operator} {operand : Expr} {checks : Nat} {found : Value}
    (answered : (value profile subject (.unary op operand) checks).1 = .ok found) :
    found.kind = .boolean := by
  unfold value at answered
  split at answered
  · obtain ⟨_, _, _, same⟩ := andThen_eq_ok_iff.1 answered
    cases same
    rfl
  · obtain ⟨_, _, _, same⟩ := andThen_eq_ok_iff.1 answered
    split at same
    · obtain ⟨_, _, rfl⟩ := toValue_eq_ok_iff.1 same
      rfl
    · cases same
  · obtain ⟨_, _, _, same⟩ := andThen_eq_ok_iff.1 answered
    split at same
    · obtain ⟨_, _, rfl⟩ := toValue_eq_ok_iff.1 same
      rfl
    · cases same
  · cases answered

theorem kind_value_binary
    {op : Operator} {left right : Expr} {checks : Nat} {found : Value}
    (answered : (value profile subject (.binary op left right) checks).1 = .ok found) :
    found.kind = .boolean := by
  unfold value at answered
  split at answered
  · obtain ⟨_, _, _, same⟩ := andThen_eq_ok_iff.1 answered
    split at same
    · obtain ⟨_, _, rfl⟩ := toValue_eq_ok_iff.1 same
      rfl
    · cases same
      rfl
  · obtain ⟨_, _, _, same⟩ := andThen_eq_ok_iff.1 answered
    split at same
    · cases same
      rfl
    · obtain ⟨_, _, rfl⟩ := toValue_eq_ok_iff.1 same
      rfl
  · obtain ⟨_, _, _, rest⟩ := andThen_eq_ok_iff.1 answered
    obtain ⟨_, _, _, same⟩ := andThen_eq_ok_iff.1 rest
    split at same
    · cases same
      rfl
    · cases same

/-- What is no verdict is what a literal stands for. -/
theorem kind_value
    {expr : Expr} {checks : Nat} {found : Value}
    (answered : (value profile subject expr checks).1 = .ok found)
    (noVerdict : found.kind ≠ .boolean) :
    found.kind = profile.literalKind := by
  cases expr with
  | literal text =>
      rw [value] at answered
      exact kind_literalValue answered
  | unary op operand =>
      exact absurd (kind_value_unary answered) noVerdict
  | binary op left right =>
      exact absurd (kind_value_binary answered) noVerdict

/-! ## How the tree of a query fails -/

/-- The answer is no failure but one of those that the tree leaves possible. -/
def FailsOnlyBy {α : Type} (profile : Profile) (expr : Expr) (counted : Counted α) : Prop :=
  ∀ error, counted.1 = .error error → MayFail profile expr error

/-- An operand that is asked for its verdict adds one failure: it is a literal. -/
theorem FailsOnlyBy.asVerdict
    {expr : Expr} {checks : Nat}
    (operand : FailsOnlyBy profile expr (value profile subject expr checks))
    {asker : Asker} (asks : asker ∈ Asker.ofVerdicts) :
    FailsOnlyBy profile expr ((value profile subject expr checks).asVerdict asker) := by
  intro error failed
  rcases asVerdict_eq_error_iff.1 failed with before | ⟨found, answered, noVerdict, rfl⟩
  · exact operand error before
  · rw [kind_value answered noVerdict]
    exact .notBoolean asks

theorem literalValue_of_ne_numericYear
    (containment : profile ≠ .numericYear) (text : String) :
    profile.literalValue text subject = .ok (.text text) := by
  cases profile with
  | substring | setMembership =>
      rfl
  | numericYear =>
      exact absurd rfl containment

/-- A literal of the profile of years is a number, or it is neither the year nor a number. -/
theorem literalValue_numericYear
    {text : String} (isText : IsLiteralText text)
    (accepted : Profile.numericYear.accepts subject = true) :
    (∃ number, Profile.numericYear.literalValue text subject = .ok (.number number)) ∨
      Profile.numericYear.literalValue text subject = .error (.notAnInteger text) ∧
        text ≠ Profile.yearName ∧ ¬ Text.IsInt64 text := by
  by_cases isYear : text = Profile.yearName
  · cases subject with
    | year value =>
        exact .inl ⟨value, by simp [Profile.literalValue, isYear]⟩
    | text _ | tags _ =>
        cases accepted
  · cases number : Text.readInt64? text with
    | some value =>
        exact .inl ⟨value, by simp [Profile.literalValue, isYear, number]⟩
    | none =>
        refine .inr ⟨by simp [Profile.literalValue, isYear, number], isYear, ?_⟩
        exact isText.readInt64?_eq_none_iff.1 number

theorem failsOnlyBy_literal
    {text : String} (isText : IsLiteralText text)
    (accepted : profile.accepts subject = true) (checks : Nat) :
    FailsOnlyBy profile (.literal text) (value profile subject (.literal text) checks) := by
  intro error failed
  rw [value] at failed
  -- Only where numbers are compared can a literal fail to stand for anything.
  by_cases numeric : profile = .numericYear
  · subst numeric
    rcases literalValue_numericYear isText accepted with ⟨number, found⟩ | ⟨found, other, none⟩
    · rw [found] at failed
      cases failed
    · rw [found] at failed
      cases failed
      exact .notAnInteger rfl (by simp [literals]) other none
  · rw [literalValue_of_ne_numericYear numeric] at failed
    cases failed

theorem ne_numericYear_of_containment
    {op : Operator} (containment : op = .has ∨ op = .lacks)
    (supported : profile.supports op = true) :
    profile ≠ .numericYear := by
  rintro rfl
  rcases containment with rfl | rfl <;> cases supported

theorem eq_numericYear_of_isComparison
    {op : Operator} (comparison : op.isComparison = true)
    (supported : profile.supports op = true) :
    profile = .numericYear := by
  rw [Profile.supports_of_isComparison comparison] at supported
  cases profile with
  | substring | setMembership =>
      cases supported
  | numericYear =>
      rfl

/-- A check succeeds on a subject that the profile accepts, if the profile looks for literals. -/
theorem exists_check_eq_ok
    {op : Operator} (containment : op = .has ∨ op = .lacks)
    (looks : profile ≠ .numericYear)
    (accepted : profile.accepts subject = true) (needle : String) :
    ∃ holds, profile.check op needle subject = .ok holds := by
  cases profile with
  | substring =>
      cases subject with
      | text content =>
          rcases containment with rfl | rfl <;> exact ⟨_, rfl⟩
      | tags _ | year _ =>
          cases accepted
  | setMembership =>
      cases subject with
      | tags members =>
          rcases containment with rfl | rfl <;> exact ⟨_, rfl⟩
      | text _ | year _ =>
          cases accepted
  | numericYear =>
      exact absurd rfl looks

theorem failsOnlyBy_containment
    {op : Operator} {text : String} (containment : op = .has ∨ op = .lacks)
    (supported : profile.supports op = true)
    (accepted : profile.accepts subject = true) (checks : Nat) :
    FailsOnlyBy profile (.unary op (.literal text))
      (value profile subject (.unary op (.literal text)) checks) := by
  intro error failed
  have looks := ne_numericYear_of_containment containment supported
  obtain ⟨holds, checked⟩ := exists_check_eq_ok containment looks accepted text
  have found : (value profile subject (.unary op (.literal text)) checks).1
      = .ok (.verdict holds) := by
    rcases containment with rfl | rfl <;>
      simp [value, literalValue_of_ne_numericYear looks, checked, toValue]
  rw [found] at failed
  cases failed

theorem value_comparison
    {op : Operator} (comparison : op.isComparison = true) (left right : Expr) (checks : Nat) :
    value profile subject (.binary op left right) checks =
      ((value profile subject left checks).asNumber op).andThen fun leftNumber checks =>
        ((value profile subject right checks).asNumber op).andThen fun rightNumber checks =>
          match op.compare? leftNumber rightNumber with
          | some holds => (.ok (.verdict holds), checks)
          | none => (.error (.notNumeric op .operator), checks) := by
  cases op <;> first | rfl | cases comparison

theorem failsOnlyBy_comparison
    {op : Operator} {left right : String} (comparison : op.isComparison = true)
    (supported : profile.supports op = true)
    (leftText : IsLiteralText left) (rightText : IsLiteralText right)
    (accepted : profile.accepts subject = true) (checks : Nat) :
    FailsOnlyBy profile (.binary op (.literal left) (.literal right))
      (value profile subject (.binary op (.literal left) (.literal right)) checks) := by
  obtain rfl := eq_numericYear_of_isComparison comparison supported
  intro error failed
  rw [value_comparison comparison] at failed
  rcases literalValue_numericYear leftText accepted with
    ⟨leftNumber, leftFound⟩ | ⟨leftFound, notYear, notNumber⟩
  · rcases literalValue_numericYear rightText accepted with
      ⟨rightNumber, rightFound⟩ | ⟨rightFound, notYear, notNumber⟩
    · have compares : (op.compare? leftNumber rightNumber).isSome = true := by
        rw [Operator.isSome_compare?, comparison]
      obtain ⟨holds, compared⟩ := Option.isSome_iff_exists.1 compares
      simp [value, leftFound, rightFound, asNumber, compared] at failed
    · simp only [value, leftFound, rightFound, asNumber, andThen_ok, andThen_error,
        Except.error.injEq] at failed
      subst failed
      exact .notAnInteger rfl (by simp [literals]) notYear notNumber
  · simp only [value, leftFound, asNumber, andThen_error, Except.error.injEq] at failed
    subst failed
    exact .notAnInteger rfl (by simp [literals]) notYear notNumber

/-- A connective fails where one of its operands has no verdict. -/
theorem value_connective_eq_error
    {op : Operator} {left right : Expr} {checks : Nat} {error : EvalError}
    (connective : op = .and ∨ op = .or)
    (failed : (value profile subject (.binary op left right) checks).1 = .error error) :
    ((value profile subject left checks).asVerdict (.operator op)).1 = .error error ∨
      ∃ after, ((value profile subject right after).asVerdict (.operator op)).1 = .error error := by
  rcases connective with rfl | rfl
  · rw [value] at failed
    rcases andThen_eq_error_iff.1 failed with before | ⟨_, after, _, later⟩
    · exact .inl before
    · split at later
      · exact .inr ⟨after, toValue_eq_error_iff.1 later⟩
      · cases later
  · rw [value] at failed
    rcases andThen_eq_error_iff.1 failed with before | ⟨_, after, _, later⟩
    · exact .inl before
    · split at later
      · cases later
      · exact .inr ⟨after, toValue_eq_error_iff.1 later⟩

/-- The tree of a query fails in the ways that it leaves possible and in no other. -/
theorem WellFormed.failsOnlyBy
    {expr : Expr} (wellFormed : expr.WellFormed profile)
    (accepted : profile.accepts subject = true) (checks : Nat) :
    FailsOnlyBy profile expr (value profile subject expr checks) := by
  induction wellFormed generalizing checks with
  | literal isText =>
      exact failsOnlyBy_literal isText accepted checks
  | negation _ _ inductionHypothesis =>
      have asks : Asker.operator .not ∈ Asker.ofVerdicts := by decide
      have asked := (inductionHypothesis checks).asVerdict asks
      intro error failed
      rw [value] at failed
      rcases andThen_eq_error_iff.1 failed with before | ⟨_, _, _, same⟩
      · exact (asked error before).mono (by simp [literals])
      · cases same
  | containment containment supported _ =>
      exact failsOnlyBy_containment containment supported accepted checks
  | @connective op left right connective _ _ _ leftHypothesis rightHypothesis =>
      have asks : Asker.operator op ∈ Asker.ofVerdicts := by
        rcases connective with rfl | rfl <;> decide
      intro error failed
      rcases value_connective_eq_error connective failed with before | ⟨after, later⟩
      · have asked := (leftHypothesis checks).asVerdict asks
        exact (asked error before).mono (by simp [literals])
      -- The right operand is asked with the checks of the left one, hence for any count.
      · have asked := (rightHypothesis after).asVerdict asks
        exact (asked error later).mono (by simp [literals])
  | comparison comparison supported leftText rightText =>
      exact failsOnlyBy_comparison comparison supported leftText rightText accepted checks

/-- The verdict of the whole tree is asked for as well, by the filter. -/
theorem WellFormed.mayFail_of_evaluate
    {expr : Expr} (wellFormed : expr.WellFormed profile)
    (accepted : profile.accepts subject = true) {error : EvalError}
    (failed : expr.evaluate profile subject = .error error) :
    MayFail profile expr error := by
  have asks : Asker.filter ∈ Asker.ofVerdicts := by decide
  have asked := (wellFormed.failsOnlyBy accepted 0).asVerdict asks
  apply asked error
  rwa [evaluate, verdict, if_pos accepted] at failed

end Expr

namespace Query

/-- How asking a compiled query can end. A subject that the profile does not accept is refused, and
only such a subject. On a subject that it accepts the query has a verdict, or a literal stands where
a verdict is wanted, or, where numbers are compared, a literal is neither the year nor a number. No
operator stands where it cannot be asked, and no verdict where a number is wanted. -/
theorem evaluate_outcome
    {profile : Profile} {source : String} {query : Query}
    (compiled : compile profile source = .ok query) (subject : Subject) :
    (∀ named found,
      query.evaluate subject = .error (.contextMismatch named found) ↔
        profile.accepts subject = false ∧ named = profile ∧ found = subject.kind) ∧
    (profile.accepts subject = true →
      (∃ holds, query.evaluate subject = .ok holds) ∨
      (∃ asker ∈ Asker.ofVerdicts,
        query.evaluate subject = .error (.notBoolean asker profile.literalKind)) ∨
      (profile = .numericYear ∧
        ∃ text ∈ query.root.literals,
          text ≠ Profile.yearName ∧ ¬ Text.IsInt64 text ∧
            query.evaluate subject = .error (.notAnInteger text))) ∧
    (∀ op found, query.evaluate subject ≠ .error (.notNumeric op found)) ∧
    (∀ asker found,
      query.evaluate subject = .error (.notBoolean asker found) →
        found ≠ .operator ∧ found ≠ .boolean) := by
  have shaped := wellFormed_root compiled
  have named : query.profile = profile := by
    obtain ⟨_, _, _, _, rfl⟩ := compile_eq_ok_iff.1 compiled
    rfl
  have asked : query.evaluate subject = query.root.evaluate profile subject := by
    rw [evaluate, named]
  rw [asked]
  by_cases accepted : profile.accepts subject = true
  · cases outcome : query.root.evaluate profile subject with
    | ok holds =>
        simp [accepted]
    | error error =>
        cases shaped.mayFail_of_evaluate accepted outcome with
        | @notBoolean asker asks =>
            have kind : profile.literalKind ≠ .operator ∧ profile.literalKind ≠ .boolean := by
              cases profile <;> decide
            refine ⟨by simp [accepted], fun _ => ?_, by simp, ?_⟩
            · exact .inr (.inl ⟨asker, asks, rfl⟩)
            · rintro _ _ ⟨⟩
              exact kind
        | @notAnInteger text numeric member notYear notNumber =>
            refine ⟨by simp [accepted], fun _ => ?_, by simp, by simp⟩
            exact .inr (.inr ⟨numeric, text, member, notYear, notNumber, rfl⟩)
  · have refused : query.root.evaluate profile subject = .error (profile.mismatch subject) := by
      simp [Expr.evaluate, Expr.verdict, accepted]
    rw [refused, Profile.mismatch]
    have rejected : profile.accepts subject = false := by simpa using accepted
    simp [rejected, eq_comm]

/-- A comparison with a word is reached when the one before it leaves the verdict open. -/
theorem evaluate_outcome_word :
    ∃ query,
      compile .numericYear "year < 1990 or year == 19x5" = .ok query ∧
        query.evaluate (.year 1995) = .error (.notAnInteger "19x5") ∧
        "19x5" ∈ query.root.literals ∧ ¬ Text.IsInt64 "19x5" := by
  obtain ⟨query, compiled, failed⟩ :
      ∃ query,
        compile .numericYear "year < 1990 or year == 19x5" = .ok query ∧
          query.evaluate (.year 1995) = .error (.notAnInteger "19x5") := by
    refine ⟨⟨"year < 1990 or year == 19x5", .numericYear, ?_⟩, ?_, ?_⟩
    · exact .binary .or
        (.binary .lt (.literal "year") (.literal "1990"))
        (.binary .eq (.literal "year") (.literal "19x5"))
    · decide +kernel
    · decide +kernel
  refine ⟨query, compiled, failed, ?_⟩
  rcases (evaluate_outcome compiled (.year 1995)).2.1 rfl with
    ⟨_, answered⟩ | ⟨_, _, answered⟩ | ⟨_, text, member, _, notNumber, answered⟩
  · rw [failed] at answered
    cases answered
  · rw [failed] at answered
    cases answered
  · rw [failed] at answered
    cases answered
    exact ⟨member, notNumber⟩

end Query

end CatalogFilter
