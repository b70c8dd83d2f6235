import CatalogFilter.Proofs.Beginnings
import CatalogFilter.Proofs.Layout

/-!
# Where tokens stand in their source

A token is the token of one lexeme, and its offset counts the bytes before this lexeme. Cut off at a
token, a source scans to the tokens before it: a lexeme that ends before what follows it also ends
where nothing follows. So a source can be taken apart at any of its tokens.
-/

namespace CatalogFilter

/-- A text is found in a source behind this many bytes. -/
def StandsAt (source text : String) (offset : Nat) : Prop :=
  ∃ before after : String,
    source = before ++ text ++ after ∧ before.utf8ByteSize = offset

namespace Lexeme

/-- An operator is spelled by its symbol, also where it is a word. -/
theorem spelling_of_kind_toToken
    {lexeme : Lexeme} {offset : Nat} {op : Operator}
    (kind : (lexeme.toToken offset).kind = .operator op) :
    lexeme.spelling = op.symbol.toList ∧ (lexeme.toToken offset).text = op.symbol := by
  have denotes := lexeme.denotes_toToken offset
  rw [kind] at denotes
  generalize (lexeme.toToken offset).text = text at denotes ⊢
  cases denotes <;> exact ⟨rfl, rfl⟩

theorem kind_toToken_ne_finish (lexeme : Lexeme) (offset : Nat) :
    (lexeme.toToken offset).kind ≠ .finish := by
  intro kind
  have denotes := lexeme.denotes_toToken offset
  rw [kind] at denotes
  cases denotes

end Lexeme

namespace Layout

variable {profile : Profile} {before after pieces : List (Lexeme × List Char)}

theorem spellPieces_append (before after : List (Lexeme × List Char)) :
    spellPieces (before ++ after) = spellPieces before ++ spellPieces after := by
  induction before with
  | nil =>
      rfl
  | cons piece others inductionHypothesis =>
      obtain ⟨lexeme, gap⟩ := piece
      simp [spellPieces, inductionHypothesis]

theorem pieceTokens_append (offset : Nat) (before after : List (Lexeme × List Char)) :
    pieceTokens offset (before ++ after) =
      pieceTokens offset before ++
        pieceTokens (offset + byteLength (spellPieces before)) after := by
  induction before generalizing offset with
  | nil =>
      rfl
  | cons piece others inductionHypothesis =>
      obtain ⟨lexeme, gap⟩ := piece
      simp [pieceTokens, spellPieces, inductionHypothesis, byteLength_append, Nat.add_assoc]

theorem PiecesFit.of_append (fits : PiecesFit profile (before ++ after)) :
    PiecesFit profile before := by
  induction before with
  | nil =>
      trivial
  | cons piece others inductionHypothesis =>
      obtain ⟨lexeme, gap⟩ := piece
      obtain ⟨allowed, ends, gaps, rest⟩ := fits
      have endsEarlier : lexeme.EndsBefore ((gap ++ spellPieces others) ++ spellPieces after) := by
        rw [List.append_assoc, ← spellPieces_append]
        exact ends
      exact ⟨allowed, endsEarlier.of_append, gaps, inductionHypothesis rest⟩

/-- The tokens before one of them are those of the pieces before its piece. -/
theorem exists_piece_of_pieceTokens_eq
    {offset : Nat} {front back : List Token} {token : Token}
    (split : pieceTokens offset pieces = front ++ token :: back) :
    ∃ before lexeme gap after,
      pieces = before ++ (lexeme, gap) :: after ∧
        front = pieceTokens offset before ∧
          token = lexeme.toToken (offset + byteLength (spellPieces before)) := by
  induction front generalizing offset pieces with
  | nil =>
      cases pieces with
      | nil =>
          cases split
      | cons piece others =>
          obtain ⟨lexeme, gap⟩ := piece
          obtain ⟨rfl, _⟩ := List.cons.inj split
          exact ⟨[], lexeme, gap, others, rfl, rfl, rfl⟩
  | cons first front inductionHypothesis =>
      cases pieces with
      | nil =>
          cases split
      | cons piece others =>
          obtain ⟨lexeme, gap⟩ := piece
          obtain ⟨rfl, rest⟩ := List.cons.inj split
          obtain ⟨before, next, nextGap, after, rfl, rfl, rfl⟩ := inductionHypothesis rest
          refine ⟨(lexeme, gap) :: before, next, nextGap, after, rfl, rfl, ?_⟩
          simp [spellPieces, byteLength_append, Nat.add_assoc]

end Layout

namespace Token

variable {profile : Profile} {source : String} {tokens front back : List Token} {token : Token}

/-- The token that marks the end comes last. -/
theorem kind_of_mem_getLast?_scan (scanned : scan profile source = .ok tokens) :
    ∀ last ∈ tokens.getLast?, last.kind = .finish := by
  obtain ⟨layout, _, _, rfl⟩ := scan_eq_ok_iff.1 scanned
  intro last member
  rw [List.getLast?_concat] at member
  cases member
  rfl

theorem scan_ne_nil (scanned : scan profile source = .ok tokens) : tokens ≠ [] := by
  obtain ⟨layout, _, _, rfl⟩ := scan_eq_ok_iff.1 scanned
  simp

/-- A source is cut at the lexeme of a token. What comes before it scans to the tokens before. -/
theorem exists_cut_of_scan
    (scanned : scan profile source = .ok (front ++ token :: back))
    (kind : token.kind ≠ .finish) :
    ∃ (before after : String) (lexeme : Lexeme),
      source = before ++ String.ofList lexeme.spelling ++ after ∧
        token = lexeme.toToken before.utf8ByteSize ∧
          scan profile before = .ok (front ++ [⟨.finish, "", before.utf8ByteSize⟩]) := by
  obtain ⟨⟨lead, pieces⟩, fits, whole, same⟩ := scan_eq_ok_iff.1 scanned
  rcases beginning_of_append_cons same with ⟨rest, longer⟩ | ⟨rest, split, _⟩
  · -- Only the token at the end stands behind all lexemes.
    rw [longer, List.append_assoc] at same
    have last := List.append_cancel_left same
    have isFinish : token ∈ [(⟨.finish, "", source.utf8ByteSize⟩ : Token)] := by
      rw [← last]
      simp
    rw [List.mem_singleton.1 isFinish] at kind
    exact absurd rfl kind
  · obtain ⟨before, lexeme, gap, after, rfl, rfl, rfl⟩ :=
      Layout.exists_piece_of_pieceTokens_eq split
    have cutFits : Layout.Fits profile ⟨lead, before⟩ :=
      ⟨fits.1, fits.2.of_append⟩
    have cutSize :
        (String.ofList (lead ++ Layout.spellPieces before)).utf8ByteSize =
          byteLength lead + byteLength (Layout.spellPieces before) := by
      rw [← byteLength_eq_utf8ByteSize, byteLength_append]
    refine ⟨String.ofList (lead ++ Layout.spellPieces before),
      String.ofList (gap ++ Layout.spellPieces after), lexeme, ?_, ?_, ?_⟩
    · rw [← String.ofList_append, ← String.ofList_append, ← String.ofList_toList (s := source),
        ← whole]
      simp [Layout.text, Layout.spellPieces_append, Layout.spellPieces]
    · rw [cutSize]
    · apply scan_of_fits cutFits
      simp [Layout.text]

/-- An operator of a source stands at its offset as it is spelled. -/
theorem standsAt_of_mem_scan
    {op : Operator} (scanned : scan profile source = .ok tokens)
    (member : token ∈ tokens) (kind : token.kind = .operator op) :
    token.text = op.symbol ∧ StandsAt source op.symbol token.offset := by
  obtain ⟨front, back, rfl⟩ := List.append_of_mem member
  obtain ⟨before, after, lexeme, split, rfl, _⟩ :=
    exists_cut_of_scan scanned (by simp [kind])
  obtain ⟨spelled, text⟩ := Lexeme.spelling_of_kind_toToken kind
  refine ⟨text, before, after, ?_, (lexeme.offset_toToken _).symm⟩
  rw [split, spelled, String.ofList_toList]

end Token

end CatalogFilter
