import CatalogFilter.Proofs.Composition
import CatalogFilter.Proofs.JoinedItems
import CatalogFilter.Proofs.WellTyped
import Mathlib.Algebra.Ring.Parity

/-!
# From tags to text

A field can be asked as a set of tags or as one text. Whatever is one of the tags is found in the
text, since every tag is in it. So a query that only ever asks that something be found, with `has`
under an even number of `not` and `lacks` under an odd number, goes on to hold when its field is
asked as text. Under each `not` the two verdicts change places, and the induction carries both
directions.
-/

namespace CatalogFilter

/-! ## The same tree under another profile -/

section Profiles

variable {profile other : Profile}

/-- What is written with the operators of a profile is written with those of one that has them
all. -/
theorem Derives.mono
    {phrase : Phrase} {tokens : List Token} {expr : Expr} {nesting : Nat}
    (supports : ∀ op, profile.supports op = true → other.supports op = true)
    (derivation : Derives profile phrase tokens expr nesting) :
    Derives other phrase tokens expr nesting := by
  have moved : Derives other phrase (tokens.map id) expr nesting :=
    derivation.map supports (fun _ => rfl) (fun _ => rfl)
  rwa [List.map_id] at moved

theorem Layout.PiecesFit.mono
    {pieces : List (Lexeme × List Char)}
    (comparisons : profile.hasComparisons = true → other.hasComparisons = true)
    (fits : PiecesFit profile pieces) :
    PiecesFit other pieces := by
  induction pieces with
  | nil =>
      trivial
  | cons piece pieces inductionHypothesis =>
      obtain ⟨allowed, ends, gaps, others⟩ := fits
      refine ⟨?_, ends, gaps, inductionHypothesis others⟩
      obtain ⟨lexeme, gap⟩ := piece
      cases lexeme with
      | symbol op =>
          exact allowed.imp_right (Or.imp_right (And.imp_right comparisons))
      | word run | quoted inside =>
          exact allowed

/-- A query that compiles under a profile compiles to the same tree under one that has all its
operators. -/
theorem Query.compile_mono
    {source : String} {query : Query}
    (supports : ∀ op, profile.supports op = true → other.supports op = true)
    (compiled : compile profile source = .ok query) :
    compile other source = .ok ⟨source, other, query.root⟩ := by
  obtain ⟨tokens, root, scanned, parsed, rfl⟩ := compile_eq_ok_iff.1 compiled
  have comparisons : profile.hasComparisons = true → other.hasComparisons = true := by
    have known (profile : Profile) : profile.supports .eq = profile.hasComparisons :=
      Profile.supports_of_isComparison rfl
    rw [← known, ← known]
    exact supports .eq
  obtain ⟨layout, fits, whole, rfl⟩ := Token.scan_eq_ok_iff.1 scanned
  obtain ⟨nesting, derivation, shallow, within⟩ := Expr.derives_of_ofTokens parsed
  have rescanned := Token.scan_of_fits ⟨fits.1, fits.2.mono comparisons⟩ whole
  rcases Expr.ofTokens_of_derives (derivation.mono supports) with ⟨_, _, accepted⟩ | ⟨exceeds, _⟩
  · exact compile_eq_ok_iff.2 ⟨_, root, rescanned, accepted, rfl⟩
  · omega

end Profiles

/-! ## Verdicts that follow one another -/

namespace MatchMode

/-- What a mode makes of two verdicts. -/
def join : MatchMode → Bool → Bool → Bool
  | .all => (· && ·)
  | .any => (· || ·)

theorem thenAsk_ok (mode : MatchMode) (first next : Bool) :
    mode.thenAsk (.ok first) (.ok next) = .ok (mode.join first next) := by
  cases mode <;> cases first <;> rfl

theorem join_mono
    (mode : MatchMode) {first next first' next' : Bool}
    (imp : first = true → first' = true) (impNext : next = true → next' = true) :
    mode.join first next = true → mode.join first' next' = true := by
  cases mode with
  | all =>
      simp only [join, Bool.and_eq_true]
      exact And.imp imp impNext
  | any =>
      simp only [join, Bool.or_eq_true]
      exact Or.imp imp impNext

end MatchMode

/-- Both answers are verdicts. After an even number of flips the second holds if the first does, and
after an odd number it is the other way round. -/
def Follows (flips : Nat) (first second : Except EvalError Bool) : Prop :=
  ∃ holds other,
    first = .ok holds ∧ second = .ok other ∧
      (Even flips → holds = true → other = true) ∧ (Odd flips → other = true → holds = true)

namespace Follows

variable {flips : Nat} {first second next other : Except EvalError Bool}

theorem negate (follows : Follows (flips + 1) first second) :
    Follows flips (first.map (!·)) (second.map (!·)) := by
  obtain ⟨holds, other, rfl, rfl, forward, backward⟩ := follows
  refine ⟨!holds, !other, rfl, rfl, ?_, ?_⟩
  · intro even
    have reversed := backward even.add_one
    cases holds <;> simp_all
  · intro odd
    have reversed := forward odd.add_one
    cases holds <;> simp_all

theorem thenAsk
    (follows : Follows flips first second) (followsNext : Follows flips next other)
    (mode : MatchMode) :
    Follows flips (mode.thenAsk first next) (mode.thenAsk second other) := by
  obtain ⟨holds, holds', rfl, rfl, forward, backward⟩ := follows
  obtain ⟨later, later', rfl, rfl, forwardNext, backwardNext⟩ := followsNext
  refine ⟨_, _, mode.thenAsk_ok holds later, mode.thenAsk_ok holds' later', ?_, ?_⟩
  · intro even
    exact mode.join_mono (forward even) (forwardNext even)
  · intro odd
    exact mode.join_mono (backward odd) (backwardNext odd)

end Follows

/-! ## Queries that ask that something be found -/

namespace Expr

/-- For each node of the prefix operator `op`, the number of `not` above it. -/
def notsAbove (op : Operator) : Expr → List Nat
  | .literal _ => []
  | .unary sign operand =>
      let below :=
        if sign = .not then (notsAbove op operand).map (· + 1) else notsAbove op operand
      if sign = op then 0 :: below else below
  | .binary _ left right => notsAbove op left ++ notsAbove op right

/-- After so many flips, every `has` and every `lacks` asks that its literal be found. -/
structure AsksFor (flips : Nat) (expr : Expr) : Prop where
  has : ∀ nots ∈ expr.notsAbove .has, Even (flips + nots)
  lacks : ∀ nots ∈ expr.notsAbove .lacks, Odd (flips + nots)

namespace AsksFor

variable {flips : Nat}

theorem of_not {operand : Expr} (asksFor : AsksFor flips (.unary .not operand)) :
    AsksFor (flips + 1) operand := by
  constructor
  · intro nots member
    have above := asksFor.has (nots + 1) (by simp [notsAbove, member])
    rwa [Nat.add_assoc, Nat.add_comm 1]
  · intro nots member
    have above := asksFor.lacks (nots + 1) (by simp [notsAbove, member])
    rwa [Nat.add_assoc, Nat.add_comm 1]

theorem of_binary
    {op : Operator} {left right : Expr} (asksFor : AsksFor flips (.binary op left right)) :
    AsksFor flips left ∧ AsksFor flips right := by
  constructor
  · constructor
    · intro nots member
      exact asksFor.has nots (List.mem_append_left _ member)
    · intro nots member
      exact asksFor.lacks nots (List.mem_append_left _ member)
  · constructor
    · intro nots member
      exact asksFor.has nots (List.mem_append_right _ member)
    · intro nots member
      exact asksFor.lacks nots (List.mem_append_right _ member)

end AsksFor

/-- A tree that asks for tags to be found follows itself from tags to a text with these tags. -/
theorem WellFormed.follows_asked
    {expr : Expr} {flips : Nat} {members : List String} {content : String}
    (found : ∀ tag, members.contains tag = true → content.contains tag = true)
    (wellFormed : expr.WellFormed .setMembership) (root : expr.isLiteral = false)
    (operands : expr.AsksVerdicts) (asksFor : expr.AsksFor flips) (asker : Asker) :
    Follows flips (expr.asked .setMembership (.tags members) asker)
      (expr.asked .substring (.text content) asker) := by
  induction wellFormed generalizing flips asker with
  | literal _ =>
      cases root
  | negation _ _ inductionHypothesis =>
      rw [asked_not, asked_not]
      exact (inductionHypothesis (operands.1 rfl) operands.2 asksFor.of_not _).negate
  | @containment op text containment _ _ =>
      rw [asked_containment containment (by decide), asked_containment containment (by decide)]
      rcases containment with rfl | rfl
      · have even : Even flips := asksFor.has 0 (by simp [notsAbove])
        refine ⟨_, _, rfl, rfl, fun _ => found text, fun odd => ?_⟩
        exact absurd even (Nat.not_even_iff_odd.2 odd)
      · have odd : Odd flips := asksFor.lacks 0 (by simp [notsAbove])
        rw [check_lacks, check_lacks]
        refine ⟨_, _, rfl, rfl, fun even => ?_, fun _ => ?_⟩
        · exact absurd even (Nat.not_even_iff_odd.2 odd)
        · have notFound := mt (found text)
          simpa using notFound
  | @connective op _ _ connective _ _ _ leftHypothesis rightHypothesis =>
      obtain ⟨leftRoot, rightRoot⟩ := operands.1 connective
      obtain ⟨leftAsks, rightAsks⟩ := asksFor.of_binary
      obtain ⟨mode, rfl⟩ : ∃ mode : MatchMode, op = mode.connective := by
        rcases connective with rfl | rfl
        · exact ⟨.all, rfl⟩
        · exact ⟨.any, rfl⟩
      rw [asked_connective, asked_connective]
      exact (leftHypothesis leftRoot operands.2.1 leftAsks _).thenAsk
        (rightHypothesis rightRoot operands.2.2 rightAsks _) mode
  | comparison comparison supported _ _ =>
      cases eq_numericYear_of_isComparison comparison supported

end Expr

/-! ## The two subjects of a field -/

/-- Each tag of a field is found in the text of the field. -/
theorem Catalog.contains_fieldText_of_contains_fieldTags
    {value : Option Json} {tag : String} (member : (fieldTags value).contains tag = true) :
    (fieldText value).contains tag = true := by
  rw [List.contains_iff_mem] at member
  rw [String.contains_string_iff, toList_fieldText]
  exact Text.infix_intercalate_of_mem [' '] (List.mem_map_of_mem member)

/-- A query that asks for tags to be found, and has no literal where a verdict is wanted, goes on to
hold of a field that is asked as one text. -/
theorem Query.evaluate_substring_of_setMembership
    {source : String} {tagged worded : Query}
    (compiled : compile .setMembership source = .ok tagged)
    (recompiled : compile .substring source = .ok worded)
    (root : tagged.root.isLiteral = false) (operands : tagged.root.AsksVerdicts)
    (has : ∀ nots ∈ tagged.root.notsAbove .has, Even nots)
    (lacks : ∀ nots ∈ tagged.root.notsAbove .lacks, Odd nots)
    (field : Option Json)
    (held : tagged.evaluate (Catalog.subjectOf .setMembership field) = .ok true) :
    worded.evaluate (Catalog.subjectOf .substring field) = .ok true := by
  have supports (op : Operator) (supported : Profile.setMembership.supports op = true) :
      Profile.substring.supports op = true := by
    cases op <;> exact supported
  have asksFor : tagged.root.AsksFor 0 := by
    constructor
    · intro nots member
      rw [Nat.zero_add]
      exact has nots member
    · intro nots member
      rw [Nat.zero_add]
      exact lacks nots member
  have wellFormed := wellFormed_root compiled
  obtain rfl := Except.ok.inj ((compile_mono supports compiled).symm.trans recompiled)
  obtain ⟨_, expr, _, _, rfl⟩ := compile_eq_ok_iff.1 compiled
  have found (tag : String) (member : (Catalog.fieldTags field).contains tag = true) :
      (Catalog.fieldText field).contains tag = true :=
    Catalog.contains_fieldText_of_contains_fieldTags member
  obtain ⟨holds, other, first, second, forward, _⟩ :=
    wellFormed.follows_asked found root operands asksFor .filter
  simp only [evaluate] at held ⊢
  rw [Expr.evaluate_eq_asked (Catalog.accepts_subjectOf ..)] at held ⊢
  have asTags : holds = true := Except.ok.inj (first.symm.trans held)
  exact second.trans (congrArg Except.ok (forward Even.zero asTags))

/-- Of two tags of a field, one is asked for by `not not has` and the other by `not lacks`. -/
theorem Query.evaluate_substring_of_setMembership_tags :
    let source := "not not has sf and not lacks noir"
    let root : Expr :=
      .binary .and (.unary .not (.unary .not (.unary .has (.literal "sf"))))
        (.unary .not (.unary .lacks (.literal "noir")))
    let field : Option Json := some (.array [.string "sf", .string "noir"])
    compile .setMembership source = .ok ⟨source, .setMembership, root⟩ ∧
      compile .substring source = .ok ⟨source, .substring, root⟩ ∧
      root.isLiteral = false ∧ root.AsksVerdicts ∧
      root.notsAbove .has = [2] ∧ root.notsAbove .lacks = [1] ∧
      root.evaluate .setMembership (Catalog.subjectOf .setMembership field) = .ok true ∧
      root.evaluate .substring (Catalog.subjectOf .substring field) = .ok true := by
  intro source root field
  have tagged : compile .setMembership source = .ok ⟨source, .setMembership, root⟩ := by
    decide +kernel
  have worded : compile .substring source = .ok ⟨source, .substring, root⟩ := by
    decide +kernel
  have operands : root.AsksVerdicts := by
    simp [root, Expr.AsksVerdicts, Expr.isLiteral]
  have held :
      (⟨source, .setMembership, root⟩ : Query).evaluate (Catalog.subjectOf .setMembership field) =
        .ok true := by
    decide +kernel
  have holds :=
    evaluate_substring_of_setMembership tagged worded rfl operands
      (by decide) (by decide) field held
  exact ⟨tagged, worded, rfl, operands, rfl, rfl, held, holds⟩

end CatalogFilter
