import CatalogFilter.Proofs.JsonPieces

/-!
# The pieces of a text

A text is laid out as pieces with gaps before, between and after them, and cutting it gives exactly
the pieces of its layout. A gap at the end does not count, nor does any part of it.
-/

namespace CatalogFilter.Json

/-- The text is these pieces with gaps around them, and each piece ends before what follows it. -/
inductive Laid : List Piece → List Char → Prop
  | gap {gap : List Char} :
      IsGap gap →
      Laid [] gap
  | piece {piece : Piece} {pieces : List Piece} {gap spelled rest : List Char} :
      IsGap gap →
      piece.Spelled spelled →
      piece.EndsBefore rest →
      Laid pieces rest →
      Laid (piece :: pieces) (gap ++ (spelled ++ rest))

theorem isGap_cons_iff {c : Char} {rest : List Char} :
    IsGap (c :: rest) ↔ isSpace c = true ∧ IsGap rest := by
  simp [IsGap]

theorem isGap_append_iff {first second : List Char} :
    IsGap (first ++ second) ↔ IsGap first ∧ IsGap second := by
  constructor
  · intro both
    exact ⟨fun c member => both c (List.mem_append_left second member),
      fun c member => both c (List.mem_append_right first member)⟩
  · rintro ⟨firstGap, secondGap⟩ c member
    obtain inFirst | inSecond := List.mem_append.1 member
    · exact firstGap c inFirst
    · exact secondGap c inSecond

theorem Laid.cons
    {piece : Piece} {pieces : List Piece} {spelled rest : List Char}
    (spells : piece.Spelled spelled) (ends : piece.EndsBefore rest) (laid : Laid pieces rest) :
    Laid (piece :: pieces) (spelled ++ rest) := by
  rw [← List.nil_append (spelled ++ rest)]
  exact .piece .nil spells ends laid

/-- A gap in front of a layout joins the gap that the layout begins with. -/
theorem Laid.prepend
    {pieces : List Piece} {gap text : List Char} (isGap : IsGap gap) (laid : Laid pieces text) :
    Laid pieces (gap ++ text) := by
  cases laid with
  | gap others =>
      exact .gap (isGap_append_iff.2 ⟨isGap, others⟩)
  | piece others spells ends laid =>
      rw [← List.append_assoc]
      exact .piece (isGap_append_iff.2 ⟨isGap, others⟩) spells ends laid

/-! ## Cutting a text -/

section Cutting

variable {read : List Piece}

theorem piecesFrom?_space {c : Char} (space : isSpace c = true) (rest : List Char) :
    piecesFrom? read (c :: rest) = piecesFrom? read rest := by
  rw [piecesFrom?, if_pos space]

theorem piecesFrom?_gap {gap : List Char} (isGap : IsGap gap) (rest : List Char) :
    piecesFrom? read (gap ++ rest) = piecesFrom? read rest := by
  induction gap with
  | nil =>
      rfl
  | cons c others inductionHypothesis =>
      obtain ⟨space, others⟩ := isGap_cons_iff.1 isGap
      rw [List.cons_append, piecesFrom?_space space, inductionHypothesis others]

theorem piecesFrom?_piece
    {piece : Piece} {spelled rest : List Char}
    (spells : piece.Spelled spelled) (ends : piece.EndsBefore rest) :
    piecesFrom? read (spelled ++ rest) = piecesFrom? (piece :: read) rest := by
  have taken := piece?_eq_some_iff.2 ⟨spelled, spells, rfl, ends⟩
  obtain ⟨⟨first, others, rfl, notSpace⟩, _⟩ := spells.ends
  rw [List.cons_append] at taken ⊢
  rw [piecesFrom?, if_neg (by simp [notSpace])]
  split
  · rename_i nothing
    rw [taken] at nothing
    cases nothing
  · rename_i other after another
    rw [taken] at another
    cases another
    rfl

theorem laid_of_piecesFrom?
    {result : List Piece} {text : List Char} (cut : piecesFrom? read text = some result) :
    ∃ pieces, result = read.reverse ++ pieces ∧ Laid pieces text := by
  fun_induction piecesFrom? read text with
  | case1 =>
      cases cut
      exact ⟨[], by simp, .gap .nil⟩
  | case2 read c rest space inductionHypothesis =>
      obtain ⟨pieces, same, laid⟩ := inductionHypothesis cut
      have gap : IsGap [c] := isGap_cons_iff.2 ⟨space, .nil⟩
      exact ⟨pieces, same, laid.prepend gap⟩
  | case3 =>
      cases cut
  | case4 read c rest _ piece after taken inductionHypothesis =>
      obtain ⟨pieces, same, laid⟩ := inductionHypothesis cut
      obtain ⟨spelled, spells, split, ends⟩ := piece?_eq_some_iff.1 taken
      refine ⟨piece :: pieces, by simp [same], ?_⟩
      rw [split]
      exact laid.cons spells ends

theorem piecesFrom?_of_laid
    {pieces : List Piece} {text : List Char} (laid : Laid pieces text) :
    piecesFrom? read text = some (read.reverse ++ pieces) := by
  induction laid generalizing read with
  | gap isGap =>
      rename_i gap
      rw [← List.append_nil gap, piecesFrom?_gap isGap, piecesFrom?, List.append_nil]
  | piece isGap spells ends _ inductionHypothesis =>
      rw [piecesFrom?_gap isGap, piecesFrom?_piece spells ends, inductionHypothesis]
      simp

end Cutting

/-- Cutting a text gives the pieces of its layout, and fails for a text without one. -/
theorem pieces?_eq_some_iff {text : String} {pieces : List Piece} :
    pieces? text = some pieces ↔ Laid pieces text.toList := by
  constructor
  · intro cut
    obtain ⟨others, same, laid⟩ := laid_of_piecesFrom? cut
    rw [List.reverse_nil, List.nil_append] at same
    rwa [same]
  · intro laid
    exact piecesFrom?_of_laid laid

/-! ## A space at the end -/

theorem Piece.EndsBefore.of_append
    {piece : Piece} {rest others : List Char} (ends : piece.EndsBefore (rest ++ others)) :
    piece.EndsBefore rest := by
  unfold Piece.EndsBefore at *
  split
  · cases rest with
    | nil =>
        simp [NoNumberAhead]
    | cons first rest =>
        exact ends
  · trivial

theorem Laid.of_append_space
    {pieces : List Piece} {text : List Char} {c : Char} (space : isSpace c = true)
    (laid : Laid pieces (text ++ [c])) :
    Laid pieces text := by
  generalize whole : text ++ [c] = longer at laid
  induction laid generalizing text with
  | gap isGap =>
      rw [← whole, isGap_append_iff] at isGap
      exact .gap isGap.1
  | piece isGap spells ends _ inductionHypothesis =>
      rename_i piece pieces gap spelled rest _
      obtain rfl | ⟨shorter, last, rfl⟩ := List.eq_nil_or_concat rest
      · -- the piece would end with the space
        obtain ⟨_, others, last, rfl, notSpace⟩ := spells.ends
        rw [List.append_nil, ← List.append_assoc, List.append_singleton_inj] at whole
        rw [← whole.2, space] at notSpace
        cases notSpace
      · rw [List.concat_eq_append] at *
        rw [← List.append_assoc, ← List.append_assoc, List.append_singleton_inj] at whole
        obtain ⟨rfl, rfl⟩ := whole
        rw [List.append_assoc]
        exact .piece isGap spells ends.of_append (inductionHypothesis rfl)

end CatalogFilter.Json
