import CatalogFilter.Proofs.ShortCircuit

/-!
# Clauses of one field as one query

Clauses that ask one field under one profile could be written as one query: their trees, nested to
the left under `and` or under `or`. A filter that asks them in turn answers as that query does, down
to which failure comes first. One thing tells the two apart: of a literal in the place of a clause
the filter complains itself, and in the query the connective does.
-/

namespace CatalogFilter

/-- The trees under one operator, grouped to the left. -/
def Expr.nest (op : Operator) (first : Expr) (rest : List Expr) : Expr :=
  rest.foldl (.binary op) first

/-- The two answers are the same, but a value that is no verdict may be complained of by the filter
in the first and by the operator in the second. -/
def SameButForAsker (op : Operator) (alone inside : Except EvalError Bool) : Prop :=
  alone = inside ∨
    ∃ found,
      alone = .error (.notBoolean .filter found) ∧
        inside = .error (.notBoolean (.operator op) found)

namespace SameButForAsker

variable {profile : Profile} {subject : Subject}

theorem of_asked (op : Operator) (expr : Expr) :
    SameButForAsker op (expr.asked profile subject .filter)
      (expr.asked profile subject (.operator op)) := by
  unfold Expr.asked
  rcases expr.value profile subject 0 with ⟨error | found, checks⟩
  · exact .inl rfl
  · cases found with
    | verdict holds =>
        exact .inl rfl
    | text _ | number _ =>
        exact .inr ⟨_, rfl, rfl⟩

theorem thenAsk
    {op : Operator} {alone inside nextAlone nextInside : Except EvalError Bool}
    (first : SameButForAsker op alone inside) (next : SameButForAsker op nextAlone nextInside)
    (mode : MatchMode) :
    SameButForAsker op (mode.thenAsk alone nextAlone) (mode.thenAsk inside nextInside) := by
  rcases first with rfl | ⟨found, rfl, rfl⟩
  · rcases alone with error | holds
    · exact .inl rfl
    · by_cases settled : holds = mode.decisive
      · simp [MatchMode.thenAsk, settled, SameButForAsker]
      · simpa [MatchMode.thenAsk, settled] using next
  · exact .inr ⟨found, rfl, rfl⟩

/-- Clauses that are asked after `alone` answer like the tree that grows from one that answers
`inside`. -/
theorem askClauses
    {mode : MatchMode} {record : Record} {clauses : List Clause} {alone : Except EvalError Bool}
    {tree : Expr}
    (first : SameButForAsker mode.connective alone
      (tree.asked profile subject (.operator mode.connective)))
    (reads : ∀ clause ∈ clauses,
      clause.holds record = clause.query.root.asked profile subject .filter) :
    SameButForAsker mode.connective
      (mode.thenAsk alone (Filter.askClauses mode record clauses))
      ((tree.nest mode.connective (clauses.map (·.query.root))).asked profile subject
        (.operator mode.connective)) := by
  induction clauses generalizing alone tree with
  | nil =>
      rw [Filter.askClauses, mode.thenAsk_undecided]
      exact first
  | cons clause clauses inductionHypothesis =>
      -- The loop groups to the right, the tree to the left.
      rw [Filter.askClauses, ← mode.thenAsk_assoc]
      apply inductionHypothesis
      · rw [Expr.asked_connective, reads clause (List.mem_cons_self ..)]
        exact first.thenAsk (of_asked mode.connective clause.query.root) mode
      · intro other member
        exact reads other (List.mem_cons_of_mem clause member)

end SameButForAsker

namespace Expr

variable {profile : Profile} {subject : Subject}

/-- Once there are two trees, the root is the connective, and it does not matter who asks it. -/
theorem asked_nest_cons
    (mode : MatchMode) (asker : Asker) (first second : Expr) (rest : List Expr) :
    (nest mode.connective first (second :: rest)).asked profile subject asker =
      (nest mode.connective first (second :: rest)).asked profile subject
        (.operator mode.connective) := by
  induction rest generalizing first second with
  | nil =>
      simp only [nest, List.foldl_cons, List.foldl_nil, asked_connective]
  | cons third rest inductionHypothesis =>
      exact inductionHypothesis (.binary mode.connective first second) third

end Expr

namespace Filter

/-- Clauses of one field and one profile pass a record as the one query does that joins their trees
by the mode's connective; only the name of who complains may differ. Without clauses every record
passes. -/
theorem passes_agrees_with_nest
    {field : String} {profile : Profile} {first : Clause} {rest : List Clause}
    (reads : ∀ clause ∈ first :: rest, clause.field = field ∧ clause.query.profile = profile)
    (name : String) (record : Record) :
    (∀ mode : MatchMode,
      SameButForAsker mode.connective
        (passes ⟨name, mode, first :: rest⟩ record)
        ((first.query.root.nest mode.connective (rest.map (·.query.root))).evaluate profile
          (Catalog.subjectOf profile (record.field? field)))) ∧
    (∀ mode : MatchMode, passes ⟨name, mode, []⟩ record = .ok true) := by
  have asked : ∀ clause ∈ first :: rest,
      clause.holds record =
        clause.query.root.asked profile (Catalog.subjectOf profile (record.field? field))
          .filter := by
    intro clause member
    obtain ⟨sameField, sameProfile⟩ := reads clause member
    rw [clause.holds_eq_asked, sameField, sameProfile]
  have accepted := Catalog.accepts_subjectOf profile (record.field? field)
  constructor
  · intro mode
    rw [passes_eq_askClauses (by simp), askClauses, asked first (List.mem_cons_self ..),
      Expr.evaluate_eq_asked accepted]
    cases rest with
    | nil =>
        rw [askClauses, mode.thenAsk_undecided]
        exact .inl rfl
    | cons second rest =>
        have alike := SameButForAsker.askClauses
          (.of_asked mode.connective first.query.root) fun clause member =>
            asked clause (List.mem_cons_of_mem first member)
        rw [List.map_cons, Expr.asked_nest_cons]
        exact alike
  · intro mode
    exact passes_of_clauses_eq_nil rfl record

/-- The filter complains of a word in the place of its second clause, and the query has `and`
complain of it. -/
theorem passes_agrees_with_nest_word :
    let tagged : Clause := ⟨"tags", ⟨⟨"has sf", .setMembership, .unary .has (.literal "sf")⟩, 0⟩⟩
    let word : Clause := ⟨"tags", ⟨⟨"sf", .setMembership, .literal "sf"⟩, 1⟩⟩
    let record : Record := ⟨⟨1, ""⟩, [("tags", .string "sf")]⟩
    (∀ clause ∈ [tagged, word],
      clause.field = "tags" ∧ clause.query.profile = .setMembership) ∧
    passes ⟨"query", .all, [tagged, word]⟩ record = .error (.notBoolean .filter .string) ∧
    SameButForAsker .and (.error (.notBoolean .filter .string))
      ((tagged.query.root.nest .and [word.query.root]).evaluate .setMembership
        (Catalog.subjectOf .setMembership (record.field? "tags"))) := by
  intro tagged word record
  have reads : ∀ clause ∈ [tagged, word],
      clause.field = "tags" ∧ clause.query.profile = .setMembership := by
    decide +kernel
  have failed :
      passes ⟨"query", .all, [tagged, word]⟩ record = .error (.notBoolean .filter .string) := by
    decide +kernel
  have alike := (passes_agrees_with_nest reads "query" record).1 .all
  rw [failed] at alike
  exact ⟨reads, failed, alike⟩

end Filter

end CatalogFilter
