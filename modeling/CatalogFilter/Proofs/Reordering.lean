import CatalogFilter.Expr.Render
import CatalogFilter.Proofs.SafeSelection
import CatalogFilter.Proofs.ShortCircuit
import Mathlib.Data.List.Forall2

/-!
# The order of clauses and operands

Which failures are seen depends on the order in which clauses and operands are asked. The verdict
does not: there is a reading of trees and filters in which the order plays no part, with a third
value where nothing is said, and an evaluation that has a verdict has the one of this reading. In it
a connective is decided by a single operand, whichever that is, and it takes all operands to decide
the other way.
-/

namespace CatalogFilter

/-- What the evaluation answers is what the reading says. Where the evaluation fails, the reading
may say anything. -/
def Reads {α : Type} (answer : Except EvalError α) (reading : Option α) : Prop :=
  ∀ value, answer = .ok value → reading = some value

namespace Reads

variable {α β : Type} {answer : Except EvalError α} {reading : Option α}

theorem of_toOption (answer : Except EvalError α) : Reads answer answer.toOption := by
  rintro value rfl
  rfl

theorem of_error (error : EvalError) (reading : Option α) : Reads (.error error) reading := by
  intro value answered
  cases answered

/-- A sequence reads as the readings of its steps do in a row. -/
theorem andThen
    {counted : Counted α} {next : α → Nat → Counted β} {readingNext : α → Option β}
    (reads : Reads counted.1 reading)
    (readsNext : ∀ value checks, Reads (next value checks).1 (readingNext value)) :
    Reads (counted.andThen next).1 (reading.bind readingNext) := by
  obtain ⟨first, checks⟩ := counted
  rcases first with error | value
  · exact of_error error _
  · rw [reads value rfl]
    exact readsNext value checks

theorem map {counted : Counted α} (reads : Reads counted.1 reading) (change : α → β) :
    Reads (counted.andThen fun value checks => (.ok (change value), checks)).1
      (reading.map change) := by
  rw [Option.map_eq_bind]
  apply reads.andThen
  intro value checks
  exact of_toOption _

end Reads

namespace MatchMode

/-- The verdict of many, in whatever order they stand. -/
def settle (mode : MatchMode) (verdicts : List (Option Bool)) : Option Bool :=
  if some mode.decisive ∈ verdicts then some mode.decisive
  else if none ∈ verdicts then none
  else some !mode.decisive

variable {mode : MatchMode}

theorem settle_perm
    (mode : MatchMode) {verdicts others : List (Option Bool)} (permutation : verdicts.Perm others) :
    mode.settle verdicts = mode.settle others := by
  simp only [settle, permutation.mem_iff]

theorem settle_singleton (verdict : Option Bool) : mode.settle [verdict] = verdict := by
  cases mode <;> rcases verdict with _ | _ | _ <;> rfl

theorem settle_cons_decisive (verdicts : List (Option Bool)) :
    mode.settle (some mode.decisive :: verdicts) = some mode.decisive := by
  simp [settle]

theorem settle_cons_undecided (verdicts : List (Option Bool)) :
    mode.settle (some (!mode.decisive) :: verdicts) = mode.settle verdicts := by
  simp [settle]

end MatchMode

/-- What is asked in order has the verdict that it has in any order, if it has one. -/
theorem Reads.thenAsk
    {mode : MatchMode} {first next : Except EvalError Bool} {verdict : Option Bool}
    {verdicts : List (Option Bool)}
    (reads : Reads first verdict) (readsNext : Reads next (mode.settle verdicts)) :
    Reads (mode.thenAsk first next) (mode.settle (verdict :: verdicts)) := by
  rcases first with error | holds
  · exact .of_error error _
  · rw [reads holds rfl]
    by_cases settled : holds = mode.decisive
    · subst settled
      rw [MatchMode.settle_cons_decisive, MatchMode.thenAsk, if_pos rfl]
      exact .of_toOption _
    · obtain rfl : holds = !mode.decisive := Bool.eq_not_of_ne settled
      rw [MatchMode.settle_cons_undecided, MatchMode.thenAsk, if_neg settled]
      exact readsNext

namespace Value

def verdict? : Value → Option Bool
  | .verdict holds => some holds
  | .text _ | .number _ => none

def text? : Value → Option String
  | .text content => some content
  | .verdict _ | .number _ => none

def number? : Value → Option Int
  | .number value => some value
  | .verdict _ | .text _ => none

end Value

namespace Expr

open Counted

variable {profile : Profile} {subject : Subject}

/-- What a tree means in whatever order its operands are asked. -/
def meaning (profile : Profile) (subject : Subject) : Expr → Option Value
  | .literal text => (profile.literalValue text subject).toOption
  | .unary op operand =>
      match op with
      | .not =>
          ((meaning profile subject operand).bind Value.verdict?).map fun holds => .verdict !holds
      | op =>
          (((meaning profile subject operand).bind Value.text?).bind fun needle =>
            (profile.check op needle subject).toOption).map .verdict
  | .binary op left right =>
      match op with
      | .and =>
          (MatchMode.all.settle
            [(meaning profile subject left).bind Value.verdict?,
              (meaning profile subject right).bind Value.verdict?]).map .verdict
      | .or =>
          (MatchMode.any.settle
            [(meaning profile subject left).bind Value.verdict?,
              (meaning profile subject right).bind Value.verdict?]).map .verdict
      | op =>
          (((meaning profile subject left).bind Value.number?).bind fun leftNumber =>
            ((meaning profile subject right).bind Value.number?).bind fun rightNumber =>
              op.compare? leftNumber rightNumber).map .verdict

theorem meaning_connective (mode : MatchMode) (left right : Expr) :
    meaning profile subject (.binary mode.connective left right) =
      (mode.settle
        [(meaning profile subject left).bind Value.verdict?,
          (meaning profile subject right).bind Value.verdict?]).map .verdict := by
  cases mode <;> rfl

theorem meaning_compared
    {op : Operator} (notAnd : op ≠ .and) (notOr : op ≠ .or) (left right : Expr) :
    meaning profile subject (.binary op left right) =
      (((meaning profile subject left).bind Value.number?).bind fun leftNumber =>
        ((meaning profile subject right).bind Value.number?).bind fun rightNumber =>
          op.compare? leftNumber rightNumber).map .verdict := by
  cases op <;> first | rfl | contradiction

/-! ## A verdict is the one that the reading says -/

section Readings

variable {counted : Counted Value} {reading : Option Value}

theorem reads_asVerdict (reads : Reads counted.1 reading) (asker : Asker) :
    Reads (counted.asVerdict asker).1 (reading.bind Value.verdict?) := by
  apply reads.andThen
  intro found checks
  cases found with
  | verdict holds =>
      exact .of_toOption _
  | text _ | number _ =>
      exact .of_error _ _

theorem reads_asNumber (reads : Reads counted.1 reading) (op : Operator) :
    Reads (counted.asNumber op).1 (reading.bind Value.number?) := by
  apply reads.andThen
  intro found checks
  cases found with
  | number value =>
      exact .of_toOption _
  | text _ | verdict _ =>
      exact .of_error _ _

theorem reads_toValue
    {counted : Counted Bool} {reading : Option Bool} (reads : Reads counted.1 reading) :
    Reads counted.toValue.1 (reading.map .verdict) :=
  reads.map Value.verdict

theorem reads_negate
    {counted : Counted Bool} {reading : Option Bool} (reads : Reads counted.1 reading) :
    Reads counted.negate.1 (reading.map (!·)) :=
  reads.map (!·)

theorem reads_checked (reads : Reads counted.1 reading) (op : Operator) :
    Reads (checked profile subject op counted).1
      ((reading.bind Value.text?).bind fun needle =>
        (profile.check op needle subject).toOption) := by
  rw [Option.bind_assoc]
  apply reads.andThen
  intro found checks
  cases found with
  | text needle =>
      exact .of_toOption _
  | verdict _ | number _ =>
      exact .of_error _ _

theorem reads_compared
    {next : Nat → Counted Value} {readingNext : Option Value} (reads : Reads counted.1 reading)
    (readsNext : ∀ checks, Reads (next checks).1 readingNext) (op : Operator) :
    Reads (compared op counted next).1
      ((reading.bind Value.number?).bind fun leftNumber =>
        (readingNext.bind Value.number?).bind fun rightNumber =>
          op.compare? leftNumber rightNumber) := by
  apply (reads_asNumber reads op).andThen
  intro leftNumber checks
  apply (reads_asNumber (readsNext checks) op).andThen
  intro rightNumber after
  cases op.compare? leftNumber rightNumber with
  | none =>
      exact .of_error _ _
  | some holds =>
      exact .of_toOption _

end Readings

theorem reads_unary
    {operand : Expr}
    (reads : Reads (value profile subject operand 0).1 (meaning profile subject operand))
    (op : Operator) :
    Reads (value profile subject (.unary op operand) 0).1
      (meaning profile subject (.unary op operand)) := by
  cases op with
  | not =>
      have opposite :
          meaning profile subject (.unary .not operand) =
            (((meaning profile subject operand).bind Value.verdict?).map (!·)).map .verdict := by
        rw [meaning, Option.map_map]
        rfl
      rw [value_not, opposite]
      exact reads_toValue (reads_negate (reads_asVerdict reads _))
  | has =>
      rw [value_containment (.inl rfl)]
      exact reads_toValue (reads_checked reads .has)
  | lacks =>
      rw [value_containment (.inr rfl)]
      exact reads_toValue (reads_checked reads .lacks)
  | _ =>
      exact .of_error _ _

theorem reads_connective
    {left right : Expr}
    (readsLeft : Reads (value profile subject left 0).1 (meaning profile subject left))
    (readsRight : Reads (value profile subject right 0).1 (meaning profile subject right))
    (mode : MatchMode) :
    Reads (value profile subject (.binary mode.connective left right) 0).1
      (meaning profile subject (.binary mode.connective left right)) := by
  obtain ⟨counted, made, answered⟩ :=
    exists_value_connective profile subject mode left right
  rw [made, meaning_connective]
  apply reads_toValue
  rw [answered]
  apply (reads_asVerdict readsLeft _).thenAsk
  rw [MatchMode.settle_singleton]
  exact reads_asVerdict readsRight _

theorem reads_value (profile : Profile) (subject : Subject) (expr : Expr) :
    Reads (value profile subject expr 0).1 (meaning profile subject expr) := by
  induction expr with
  | literal text =>
      exact .of_toOption _
  | unary op operand inductionHypothesis =>
      exact reads_unary inductionHypothesis op
  | binary op left right leftHypothesis rightHypothesis =>
      by_cases isAnd : op = .and
      · subst isAnd
        exact reads_connective leftHypothesis rightHypothesis .all
      · by_cases isOr : op = .or
        · subst isOr
          exact reads_connective leftHypothesis rightHypothesis .any
        · have rightAfter (checks : Nat) :
              Reads (value profile subject right checks).1 (meaning profile subject right) := by
            rw [(addsAtMost_value profile subject right).eq_start]
            exact rightHypothesis
          rw [value_compared isAnd isOr, meaning_compared isAnd isOr]
          exact reads_toValue (reads_compared leftHypothesis rightAfter op)

/-! ## Trees in another order -/

/-- One tree becomes the other by exchanging the operands of some of its connectives. -/
inductive Reorders : Expr → Expr → Prop
  | literal (text : String) :
      Reorders (.literal text) (.literal text)
  | unary (op : Operator) {before after : Expr} :
      Reorders before after →
      Reorders (.unary op before) (.unary op after)
  | binary (op : Operator) {left left' right right' : Expr} :
      Reorders left left' →
      Reorders right right' →
      Reorders (.binary op left right) (.binary op left' right')
  | exchange {op : Operator} {left left' right right' : Expr} :
      op = .and ∨ op = .or →
      Reorders left left' →
      Reorders right right' →
      Reorders (.binary op left right) (.binary op right' left')

theorem Reorders.refl (expr : Expr) : Reorders expr expr := by
  induction expr with
  | literal text =>
      exact .literal text
  | unary op _ inductionHypothesis =>
      exact .unary op inductionHypothesis
  | binary op _ _ leftHypothesis rightHypothesis =>
      exact .binary op leftHypothesis rightHypothesis

theorem Reorders.meaning_eq
    {before after : Expr} (reorders : Reorders before after) :
    meaning profile subject before = meaning profile subject after := by
  induction reorders with
  | literal text =>
      rfl
  | unary op _ inductionHypothesis =>
      simp only [meaning, inductionHypothesis]
  | binary op _ _ leftHypothesis rightHypothesis =>
      simp only [meaning, leftHypothesis, rightHypothesis]
  | exchange connective _ _ leftHypothesis rightHypothesis =>
      rcases connective with rfl | rfl
      all_goals
        simp only [meaning, leftHypothesis, rightHypothesis]
        rw [MatchMode.settle_perm _ (.swap _ _ [])]

end Expr

/-! ## Filters in another order -/

namespace Clause

/-- The same question to the same field, but for the order of operands. -/
structure Reorders (clause other : Clause) : Prop where
  field : other.field = clause.field
  profile : other.query.profile = clause.query.profile
  root : clause.query.root.Reorders other.query.root

/-- What a clause means for a record in whatever order its operands are asked. -/
def meaning (record : Record) (clause : Clause) : Option Bool :=
  (clause.query.root.meaning clause.query.profile
    (Catalog.subjectOf clause.query.profile (record.field? clause.field))).bind Value.verdict?

theorem reads_holds (record : Record) (clause : Clause) :
    Reads (clause.holds record) (clause.meaning record) := by
  rw [clause.holds_eq_asked]
  exact Expr.reads_asVerdict (Expr.reads_value _ _ clause.query.root) .filter

theorem Reorders.meaning_eq
    {clause other : Clause} (reorders : clause.Reorders other) (record : Record) :
    clause.meaning record = other.meaning record := by
  rw [meaning, meaning, reorders.field, reorders.profile, reorders.root.meaning_eq]

end Clause

namespace Filter

/-- The same clauses under the same mode, but for the order of clauses and that of operands. -/
structure Reorders (filter other : Filter) : Prop where
  mode : other.mode = filter.mode
  clauses : ∃ permuted, filter.clauses.Perm permuted ∧
    List.Forall₂ Clause.Reorders permuted other.clauses

/-- What a filter means for a record in whatever order it asks. -/
def meaning (filter : Filter) (record : Record) : Option Bool :=
  if filter.clauses = [] then some true
  else filter.mode.settle (filter.clauses.map (Clause.meaning record))

theorem reads_askClauses (mode : MatchMode) (record : Record) (clauses : List Clause) :
    Reads (askClauses mode record clauses) (mode.settle (clauses.map (Clause.meaning record))) := by
  induction clauses with
  | nil =>
      exact .of_toOption _
  | cons clause clauses inductionHypothesis =>
      exact (clause.reads_holds record).thenAsk inductionHypothesis

theorem reads_passes (filter : Filter) (record : Record) :
    Reads (filter.passes record) (filter.meaning record) := by
  unfold meaning
  by_cases empty : filter.clauses = []
  · rw [if_pos empty, passes_of_clauses_eq_nil empty]
    exact .of_toOption _
  · rw [if_neg empty, passes_eq_askClauses empty]
    exact reads_askClauses filter.mode record filter.clauses

theorem map_meaning_eq
    {clauses others : List Clause} (alike : List.Forall₂ Clause.Reorders clauses others)
    (record : Record) :
    clauses.map (Clause.meaning record) = others.map (Clause.meaning record) := by
  induction alike with
  | nil =>
      rfl
  | cons first _ inductionHypothesis =>
      rw [List.map_cons, List.map_cons, first.meaning_eq, inductionHypothesis]

theorem Reorders.meaning_eq
    {filter other : Filter} (reorders : filter.Reorders other) (record : Record) :
    filter.meaning record = other.meaning record := by
  obtain ⟨permuted, permutation, alike⟩ := reorders.clauses
  have bothEmpty : filter.clauses = [] ↔ other.clauses = [] := by
    rw [← List.length_eq_zero_iff, ← List.length_eq_zero_iff, permutation.length_eq,
      alike.length_eq]
  have settled := filter.mode.settle_perm (permutation.map (Clause.meaning record))
  rw [meaning, meaning, reorders.mode, settled, map_meaning_eq alike]
  simp only [bothEmpty]

/-! ## Failures come and go -/

/-- One clause, which asks for a tag and then for a word that is no verdict. -/
def taggedOrWord : Filter where
  name := "query"
  mode := .all
  clauses := [⟨"tags", ⟨⟨"has sf or sf", .setMembership,
    .binary .or (.unary .has (.literal "sf")) (.literal "sf")⟩, 0⟩⟩]

/-- The same with the word first. -/
def wordOrTagged : Filter where
  name := "query"
  mode := .all
  clauses := [⟨"tags", ⟨⟨"sf or has sf", .setMembership,
    .binary .or (.literal "sf") (.unary .has (.literal "sf"))⟩, 0⟩⟩]

theorem compiled_taggedOrWord : taggedOrWord.Compiled := by
  let clause : ClauseSpec := ⟨"tags", .setMembership, "has sf or sf"⟩
  have compiled : ((FilterSpec.ofClause clause).compile "query" .empty).1 = .ok taggedOrWord := by
    decide +kernel
  exact FilterSpec.compiled_of_compile Cache.sound_empty compiled

theorem compiled_wordOrTagged : wordOrTagged.Compiled := by
  let clause : ClauseSpec := ⟨"tags", .setMembership, "sf or has sf"⟩
  have compiled : ((FilterSpec.ofClause clause).compile "query" .empty).1 = .ok wordOrTagged := by
    decide +kernel
  exact FilterSpec.compiled_of_compile Cache.sound_empty compiled

/-- With its clauses permuted and operands of its connectives exchanged, a filter that has a verdict
on a record has no other verdict: what changes can only be whether it fails. That does change, in
either direction. -/
theorem reordering_keeps_verdicts :
    (∀ filter other : Filter, filter.Reorders other →
      ∀ (record : Record) (verdict otherVerdict : Bool),
        filter.passes record = .ok verdict →
          other.passes record = .ok otherVerdict → verdict = otherVerdict) ∧
    (∃ filter other : Filter,
      filter.Compiled ∧ other.Compiled ∧ filter.Reorders other ∧ other.Reorders filter ∧
        ∃ record error, filter.passes record = .ok true ∧ other.passes record = .error error) := by
  constructor
  · intro filter other reorders record verdict otherVerdict passed otherPassed
    have meant := reads_passes filter record verdict passed
    have otherMeant := reads_passes other record otherVerdict otherPassed
    rw [reorders.meaning_eq, otherMeant] at meant
    exact (Option.some.inj meant).symm
  · have exchanged (first second : Expr) :
        (Expr.binary .or first second).Reorders (.binary .or second first) :=
      .exchange (.inr rfl) (.refl first) (.refl second)
    refine ⟨taggedOrWord, wordOrTagged, compiled_taggedOrWord, compiled_wordOrTagged, ?_, ?_,
      ⟨⟨1, ""⟩, [("tags", .string "sf")]⟩, .notBoolean (.operator .or) .string, ?_, ?_⟩
    · exact ⟨rfl, _, .refl _, .cons ⟨rfl, rfl, exchanged _ _⟩ .nil⟩
    · exact ⟨rfl, _, .refl _, .cons ⟨rfl, rfl, exchanged _ _⟩ .nil⟩
    · decide +kernel
    · decide +kernel

/-- Other clauses and operands come first, and the record passes as before. -/
theorem reordering_keeps_verdicts_exchanged :
    let has (tag : String) : Expr := .unary .has (.literal tag)
    let lacks (tag : String) : Expr := .unary .lacks (.literal tag)
    let tagged (root : Expr) : Clause := ⟨"tags", ⟨⟨root.render, .setMembership, root⟩, 0⟩⟩
    let recent : Clause := ⟨"year", ⟨⟨"year >= 1990", .numericYear,
      .binary .ge (.literal "year") (.literal "1990")⟩, 1⟩⟩
    let filter : Filter := ⟨"old", .any, [tagged (.binary .and (has "sf") (lacks "noir")), recent]⟩
    let other : Filter := ⟨"old", .any, [recent, tagged (.binary .and (lacks "noir") (has "sf"))]⟩
    let record : Record := ⟨⟨1, ""⟩, [("tags", .string "sf"), ("year", .string "1985")]⟩
    filter.Reorders other ∧ filter.passes record = .ok true ∧ other.passes record = .ok true ∧
      other.passes record ≠ .ok false := by
  intro has lacks tagged recent filter other record
  have recentSame : recent.Reorders recent := ⟨rfl, rfl, .refl _⟩
  have reorders : filter.Reorders other := by
    refine ⟨rfl, _, .swap _ _ [], .cons recentSame (.cons ⟨rfl, rfl, ?_⟩ .nil)⟩
    exact .exchange (.inl rfl) (.refl (has "sf")) (.refl (lacks "noir"))
  have passed : filter.passes record = .ok true := by
    decide +kernel
  have otherPassed : other.passes record = .ok true := by
    decide +kernel
  refine ⟨reorders, passed, otherPassed, ?_⟩
  intro failed
  have equal := reordering_keeps_verdicts.1 filter other reorders record true false passed failed
  cases equal

end Filter

end CatalogFilter
