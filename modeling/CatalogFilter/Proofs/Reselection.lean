import CatalogFilter.CommandLine.Run
import CatalogFilter.Proofs.JsonAcceptance
import CatalogFilter.Proofs.LineBytes
import CatalogFilter.Proofs.Matching
import CatalogFilter.Proofs.ShortCircuit

/-!
# Selecting from what was selected

The selected lines are written with a newline after each. Read back, they are the same lines, except
that a carriage return at the end of one is taken for a part of the line end and is lost. What a
line says as a record does not depend on it, so every line that is read back is selected again.
-/

namespace CatalogFilter

/-- A line as it is read back after it was written. -/
def rereadText (text : String) : String :=
  String.ofList (Catalog.withoutReturn text.toList)

theorem toList_rereadText (text : String) :
    (rereadText text).toList = Catalog.withoutReturn text.toList :=
  String.toList_ofList

theorem rereadText_eq_self_iff {text : String} :
    rereadText text = text ↔ text.toList.getLast? ≠ some '\r' := by
  rw [← String.toList_inj, toList_rereadText]
  obtain empty | ⟨front, c, split⟩ := List.eq_nil_or_concat text.toList
  · simp [empty, Catalog.withoutReturn]
  · rw [split, List.concat_eq_append, Catalog.withoutReturn_append]
    by_cases isReturn : c = '\r'
    · simp [isReturn]
    · simp [isReturn]

/-! ## The record of a line -/

/-- A carriage return at the end of a text is a gap. -/
theorem Json.parse?_rereadText
    {text : String} {value : Json} (read : parse? text = some value) :
    parse? (rereadText text) = some value := by
  by_cases returns : text.toList.getLast? = some '\r'
  · obtain ⟨front, split⟩ := List.getLast?_eq_some_iff.1 returns
    obtain ⟨pieces, laid, builds⟩ := parse?_eq_some_iff.1 read
    rw [split] at laid
    have shorter : (rereadText text).toList = front := by
      rw [toList_rereadText, split, Catalog.withoutReturn_append, if_pos rfl]
    refine parse?_eq_some_iff.2 ⟨pieces, ?_, builds⟩
    rw [shorter]
    exact laid.of_append_space (by decide)
  · rwa [rereadText_eq_self_iff.2 returns]

/-! ## The verdict on a line -/

section Verdicts

variable {record other : Record}

theorem Clause.holds_congr (same : record.fields = other.fields) (clause : Clause) :
    clause.holds record = clause.holds other := by
  rw [holds, holds, Record.field?, Record.field?, same]

theorem Filter.askClauses_congr
    (same : record.fields = other.fields) (mode : MatchMode) (clauses : List Clause) :
    askClauses mode record clauses = askClauses mode other clauses := by
  induction clauses with
  | nil =>
      rfl
  | cons clause clauses inductionHypothesis =>
      rw [askClauses, askClauses, clause.holds_congr same, inductionHypothesis]

/-- The verdict on a record depends on its fields only. -/
theorem Filter.passes_congr (same : record.fields = other.fields) (filter : Filter) :
    filter.passes record = filter.passes other := by
  by_cases empty : filter.clauses = []
  · rw [passes_of_clauses_eq_nil empty, passes_of_clauses_eq_nil empty]
  · rw [passes_eq_askClauses empty, passes_eq_askClauses empty, askClauses_congr same]

end Verdicts

theorem Filter.HasVerdict.rereadText
    {filter : Filter} {line : Line} {verdict : Bool}
    (has : filter.HasVerdict line verdict) (number : Nat) :
    filter.HasVerdict ⟨number, CatalogFilter.rereadText line.text⟩ verdict := by
  obtain ⟨fields, found, passed⟩ := has
  refine ⟨fields, Json.parse?_rereadText found, ?_⟩
  rw [← passed]
  apply Filter.passes_congr
  rfl

/-! ## Reading what was written -/

theorem utf8_outputText (selected : List String) :
    Catalog.utf8 (CommandLine.outputText selected).toList =
      (selected.map fun text => Catalog.utf8 text.toList).flatMap (· ++ [Catalog.newline]) := by
  have newline : Catalog.utf8 "\n".toList = [Catalog.newline] := by decide
  rw [CommandLine.outputText, String.toList_join]
  induction selected with
  | nil =>
      rfl
  | cons text selected inductionHypothesis =>
      rw [List.map_cons, List.flatMap_cons, Catalog.utf8_append, inductionHypothesis,
        String.toList_append, Catalog.utf8_append, newline]
      rfl

theorem isBlank_rereadText {text : String} (printed : Text.isBlank text.toList = false) :
    Text.isBlank (rereadText text).toList = false := by
  obtain ⟨c, member, notWhite⟩ := Text.isBlank_eq_false_iff.1 printed
  refine Text.isBlank_eq_false_iff.2 ⟨c, ?_, notWhite⟩
  by_cases returns : text.toList.getLast? = some '\r'
  · obtain ⟨front, split⟩ := List.getLast?_eq_some_iff.1 returns
    rw [toList_rereadText, split, Catalog.withoutReturn_append, if_pos rfl]
    rw [split] at member
    obtain inFront | isLast := List.mem_append.1 member
    · exact inFront
    · rw [List.mem_singleton.1 isLast] at notWhite
      exact absurd notWhite (by decide)
  · rwa [rereadText_eq_self_iff.2 returns]

theorem readLines_outputText
    {selected : List String}
    (within : ∀ text ∈ selected, Catalog.newline ∉ Catalog.utf8 text.toList)
    (printed : ∀ text ∈ selected, Text.isBlank text.toList = false) :
    Catalog.readLines (CommandLine.outputText selected).toUTF8 =
      .ok (Catalog.numbered 1 (selected.map rereadText)) := by
  have pieces :
      Catalog.cutLines [] [] (CommandLine.outputText selected).toUTF8.toList =
        (selected.map rereadText).map fun text => Catalog.utf8 text.toList := by
    rw [Catalog.toList_toUTF8, utf8_outputText, Catalog.cutLines_lines]
    · simp [Catalog.reverse_dropReturn_utf8, toList_rereadText]
    · simpa using within
  rw [Catalog.readLines, pieces, Catalog.keepLines_utf8]
  · rfl
  · intro text member
    obtain ⟨original, selectedMember, rfl⟩ := List.mem_map.1 member
    exact isBlank_rereadText (printed original selectedMember)

theorem Catalog.of_mem_readLines
    {bytes : ByteArray} {lines : List Line} (read : readLines bytes = .ok lines) :
    ∀ line ∈ lines,
      newline ∉ utf8 line.text.toList ∧ Text.isBlank line.text.toList = false := by
  intro line member
  obtain before | ⟨piece, printed⟩ := of_mem_keepLines read line member
  · cases before
  · exact ⟨newline_not_mem_of_mem_cutLines (by simp) (by simp) _ piece, printed⟩

namespace Filter

variable {filter : Filter}

theorem of_mem_matching {lines : List Line} {text : String}
    (member : text ∈ filter.matching lines) :
    ∃ line ∈ lines, line.text = text ∧ filter.HasVerdict line true := by
  obtain ⟨line, passing, same⟩ := List.mem_map.1 member
  obtain ⟨present, has⟩ := List.mem_filter.1 passing
  exact ⟨line, present, same, of_decide_eq_true has⟩

/-- Lines that all pass are all selected. -/
theorem select_numbered
    {number : Nat} {texts : List String}
    (passing : ∀ text ∈ texts, ∀ number, filter.HasVerdict ⟨number, text⟩ true) :
    filter.select (Catalog.numbered number texts) = .ok texts := by
  rw [select_eq_ok_iff]
  induction texts generalizing number with
  | nil =>
      exact ⟨nofun, rfl⟩
  | cons text texts inductionHypothesis =>
      rw [List.forall_mem_cons] at passing
      obtain ⟨decides, same⟩ := inductionHypothesis passing.2
      have passes := passing.1 number
      rw [Catalog.numbered, decides_cons_iff, matching_cons passes, ← same]
      exact ⟨⟨⟨true, passes⟩, decides⟩, rfl⟩

/-- What was selected from a catalog is read back and selected again, every line of it, each without
one carriage return at its end. So the second selection gives the same number of lines, and the same
lines exactly when none of them ends with a carriage return. -/
theorem select_outputText
    {bytes : ByteArray} {lines : List Line} {selected : List String}
    (read : Catalog.readLines bytes = .ok lines) (selects : filter.select lines = .ok selected) :
    ∃ again,
      Catalog.readLines (CommandLine.outputText selected).toUTF8 = .ok again ∧
        filter.select again = .ok (selected.map rereadText) ∧
          again.length = selected.length ∧
            (selected.map rereadText = selected ↔
              ∀ text ∈ selected, text.toList.getLast? ≠ some '\r') := by
  obtain ⟨_, rfl⟩ := select_eq_ok_iff.1 selects
  have kept := Catalog.of_mem_readLines read
  have rows : ∀ text ∈ filter.matching lines,
      Catalog.newline ∉ Catalog.utf8 text.toList ∧ Text.isBlank text.toList = false := by
    intro text member
    obtain ⟨line, present, rfl, _⟩ := of_mem_matching member
    exact kept line present
  have passing : ∀ text ∈ (filter.matching lines).map rereadText, ∀ number,
      filter.HasVerdict ⟨number, text⟩ true := by
    intro text member number
    obtain ⟨original, selectedMember, rfl⟩ := List.mem_map.1 member
    obtain ⟨line, _, rfl, passed⟩ := of_mem_matching selectedMember
    exact passed.rereadText number
  refine ⟨_, readLines_outputText (fun text member => (rows text member).1)
    (fun text member => (rows text member).2), select_numbered passing, ?_, ?_⟩
  · rw [← List.length_map Line.text, Catalog.map_text_numbered, List.length_map]
  · have pointwise := List.map_inj_left (l := filter.matching lines) (f := rereadText) (g := id)
    rw [List.map_id] at pointwise
    rw [pointwise]
    exact forall₂_congr fun text _ => rereadText_eq_self_iff

/-- Lines with blank ones between them, and a last one without a newline. -/
theorem select_outputText_twoLines :
    ∃ lines selected again,
      Catalog.readLines "\x7b\x7d\r\n \n\x7b\"a\": [1]\x7d".toUTF8 = .ok lines ∧
        (⟨"every record", .all, []⟩ : Filter).select lines = .ok selected ∧
          Catalog.readLines (CommandLine.outputText selected).toUTF8 = .ok again ∧
            (⟨"every record", .all, []⟩ : Filter).select again = .ok selected := by
  have read : Catalog.readLines "\x7b\x7d\r\n \n\x7b\"a\": [1]\x7d".toUTF8 =
      .ok [⟨1, "\x7b\x7d"⟩, ⟨3, "\x7b\"a\": [1]\x7d"⟩] := by
    decide +kernel
  have selects : (⟨"every record", .all, []⟩ : Filter).select
      [⟨1, "\x7b\x7d"⟩, ⟨3, "\x7b\"a\": [1]\x7d"⟩] = .ok ["\x7b\x7d", "\x7b\"a\": [1]\x7d"] := by
    decide +kernel
  obtain ⟨again, readAgain, selectsAgain, _, unchanged⟩ := select_outputText read selects
  have same := unchanged.2 (by decide)
  rw [same] at selectsAgain
  exact ⟨_, _, again, read, selects, readAgain, selectsAgain⟩

/-- A carriage return at the end of a catalog is a part of the last line, but the newline that is
written after it makes it a part of the line end. -/
theorem select_outputText_return :
    Catalog.readLines "\x7b\x7d\r".toUTF8 = .ok [⟨1, "\x7b\x7d\r"⟩] ∧
      (⟨"every record", .all, []⟩ : Filter).select [⟨1, "\x7b\x7d\r"⟩] = .ok ["\x7b\x7d\r"] ∧
        Catalog.readLines (CommandLine.outputText ["\x7b\x7d\r"]).toUTF8 =
            .ok [⟨1, "\x7b\x7d"⟩] ∧
          (⟨"every record", .all, []⟩ : Filter).select [⟨1, "\x7b\x7d"⟩] = .ok ["\x7b\x7d"] ∧
            "\x7b\x7d" ≠ "\x7b\x7d\r" := by
  decide +kernel

end Filter

end CatalogFilter
