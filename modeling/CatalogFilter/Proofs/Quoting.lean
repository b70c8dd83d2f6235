import CatalogFilter.Proofs.Atoms

/-!
# Which literals are quoted

The written form has its own rule for when a literal gets quotes: a blank or a slash in it, or a
whole reserved word. The scanner knows nothing of this rule. What it reads from a bare text is that
text as one literal exactly if the text is a bare word, and these are the texts without quotes;
between quotes it reads any text that a literal may have. So quotes are written where they are
needed and nowhere else.
-/

namespace CatalogFilter

/-- A text of a literal that needs no quotes is a bare word. -/
theorem needsQuotes_eq_false_iff
    {text : String} (isText : IsLiteralText text) :
    needsQuotes text = false ↔ IsBareWord text := by
  constructor
  · intro plain
    refine ⟨isText.1, ?_, Lexeme.not_mem_reservedWords plain⟩
    intro c member
    exact Lexeme.isBare_of_isQuotable plain member (isText.2 c member)
  · intro isWord
    exact isWord.needsQuotes_eq_false

namespace Token

/-- The source is this one literal: its tokens are the literal and the end. -/
def ScansAsLiteral (profile : Profile) (source text : String) : Prop :=
  ∃ start stop,
    scan profile source = .ok [⟨.literal, text, start⟩, ⟨.finish, "", stop⟩]

/-- A source that is spelled as one lexeme has the token of this lexeme. -/
theorem scan_of_spelling
    {profile : Profile} {source : String} {lexeme : Lexeme}
    (allowed : lexeme.Allowed profile) (ends : lexeme.EndsBefore [])
    (spelled : source.toList = lexeme.spelling) :
    scan profile source = .ok [lexeme.toToken 0, ⟨.finish, "", source.utf8ByteSize⟩] := by
  have scans : ScansAs profile 0 lexeme.spelling [] [lexeme.toToken 0] :=
    .ofLexeme allowed ends
  rw [← spelled] at scans
  exact scans.scan_eq

variable {profile : Profile} {text : String}

theorem scansAsLiteral_of_isBareWord (isWord : IsBareWord text) :
    ScansAsLiteral profile text text := by
  have spelled : text.toList = (Lexeme.ofLiteral text).spelling := by
    rw [Lexeme.spelling_ofLiteral, isWord.render_literal]
  have scanned :=
    scan_of_spelling (Lexeme.allowed_ofLiteral isWord.isLiteralText profile)
      (Lexeme.endsBefore_ofLiteral text (by simp)) spelled
  rw [Lexeme.toToken_ofLiteral] at scanned
  exact ⟨0, text.utf8ByteSize, scanned⟩

theorem scansAsLiteral_quoted (isText : IsLiteralText text) :
    ScansAsLiteral profile ("\"" ++ text ++ "\"") text := by
  have nonempty : text.toList ≠ [] := by
    simpa using isText.1
  have allowed : (Lexeme.quoted text.toList).Allowed profile :=
    ⟨nonempty, isText.2⟩
  have spelled : ("\"" ++ text ++ "\"").toList = (Lexeme.quoted text.toList).spelling := by
    simp [Lexeme.spelling]
  have scanned := scan_of_spelling allowed trivial spelled
  rw [Lexeme.toToken, String.ofList_toList] at scanned
  exact ⟨0, ("\"" ++ text ++ "\"").utf8ByteSize, scanned⟩

/-- A word is a literal only if it spells no operator. -/
theorem isBareWord_of_denotes
    {run : List Char} (allowed : (Lexeme.word run).Allowed profile)
    (denotes : (Lexeme.word run).Denotes .literal text) :
    IsBareWord text := by
  cases denotes with
  | bare unreserved =>
      exact ⟨by simpa using allowed.1, allowed.2, unreserved⟩

/-- A text without a quote in it that reads as a literal of the same text is a bare word. -/
theorem isBareWord_of_scansAsLiteral
    (isText : IsLiteralText text) (scans : ScansAsLiteral profile text text) :
    IsBareWord text := by
  obtain ⟨start, stop, scanned⟩ := scans
  obtain ⟨⟨lead, pieces⟩, fits, whole, tokens⟩ := scan_eq_ok_iff.1 scanned
  match pieces with
  | [] =>
      cases tokens
  | (lexeme, gap) :: (other, otherGap) :: pieces =>
      simp [Layout.tokens, Layout.pieceTokens] at tokens
  | [(lexeme, gap)] =>
      have token : lexeme.toToken (byteLength lead) = ⟨.literal, text, start⟩ :=
        (List.cons.inj tokens).1.symm
      have denotes := lexeme.denotes_toToken (byteLength lead)
      rw [token] at denotes
      have allowed : lexeme.Allowed profile := fits.2.1
      cases lexeme with
      | symbol op =>
          cases denotes
      | word run =>
          exact isBareWord_of_denotes allowed denotes
      | quoted inside =>
          -- The quote itself would stand in the text.
          have member : '"' ∈ text.toList := by
            rw [← whole]
            simp [Layout.text, Layout.spellPieces, Lexeme.spelling]
          exact absurd (isText.2 '"' member) (by decide)

end Token

/-- The rule for quotes and the scanner agree, for any text that a literal may have. Bare, the text
scans as this one literal exactly if the rule wants no quotes; between quotes it always does. So the
written literal is the bare text where that reads back, and the quoted text where it does not. -/
theorem needsQuotes_agrees_with_scan
    {text : String} (profile : Profile) (isText : IsLiteralText text) :
    (needsQuotes text = false ↔ Token.ScansAsLiteral profile text text) ∧
    Token.ScansAsLiteral profile ("\"" ++ text ++ "\"") text ∧
    (Token.ScansAsLiteral profile text text → (Expr.literal text).render = text) ∧
    (¬ Token.ScansAsLiteral profile text text →
      (Expr.literal text).render = "\"" ++ text ++ "\"") := by
  have agree : needsQuotes text = false ↔ Token.ScansAsLiteral profile text text := by
    rw [needsQuotes_eq_false_iff isText]
    exact ⟨Token.scansAsLiteral_of_isBareWord, Token.isBareWord_of_scansAsLiteral isText⟩
  refine ⟨agree, Token.scansAsLiteral_quoted isText, ?_, ?_⟩
  · intro scans
    exact (Token.isBareWord_of_scansAsLiteral isText scans).render_literal
  · intro differs
    rw [← agree, Bool.not_eq_false] at differs
    rw [Expr.render, if_pos differs]

/-- A blank in front of a reserved word: bare, the text reads as the operator. -/
theorem needsQuotes_agrees_with_scan_blank :
    IsLiteralText " and" ∧
      Token.scan .substring " and" = .ok [⟨.operator .and, "and", 1⟩, ⟨.finish, "", 4⟩] ∧
      Token.ScansAsLiteral .substring "\" and\"" " and" ∧
      (Expr.literal " and").render = "\" and\"" := by
  have isText : IsLiteralText " and" := by
    decide
  have scanned :
      Token.scan .substring " and" = .ok [⟨.operator .and, "and", 1⟩, ⟨.finish, "", 4⟩] := by
    decide +kernel
  have differs : ¬ Token.ScansAsLiteral .substring " and" " and" := by
    rintro ⟨start, stop, literal⟩
    rw [scanned] at literal
    simp at literal
  obtain ⟨_, quoted, _, written⟩ := needsQuotes_agrees_with_scan .substring isText
  exact ⟨isText, scanned, quoted, written differs⟩

end CatalogFilter
