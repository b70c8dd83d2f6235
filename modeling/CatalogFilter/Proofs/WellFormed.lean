import CatalogFilter.Proofs.Acceptance
import CatalogFilter.Proofs.Layout
import CatalogFilter.Query

/-!
# The trees that queries have

A tree may hold any operator anywhere, but a compiled query has a tree of a narrower shape: `not`,
`and` and `or` stand over trees of that shape, `has`, `lacks` and the comparisons over literals,
all of them operators of the profile, and a literal is made of characters that a literal can be
written with.
-/

namespace CatalogFilter

/-- A text that some literal is written with. -/
def IsLiteralText (text : String) : Prop :=
  text ≠ "" ∧ ∀ c ∈ text.toList, isQuotable c = true

instance (text : String) : Decidable (IsLiteralText text) :=
  decidable_of_iff (text ≠ "" ∧ text.toList.all isQuotable = true) <| by
    rw [IsLiteralText, List.all_eq_true]

namespace Expr

/-- The shape of a query's tree under a profile. -/
inductive WellFormed (profile : Profile) : Expr → Prop
  | literal {text : String} :
      IsLiteralText text →
      WellFormed profile (.literal text)
  | negation {operand : Expr} :
      profile.supports .not = true →
      WellFormed profile operand →
      WellFormed profile (.unary .not operand)
  | containment {op : Operator} {text : String} :
      op = .has ∨ op = .lacks →
      profile.supports op = true →
      IsLiteralText text →
      WellFormed profile (.unary op (.literal text))
  | connective {op : Operator} {left right : Expr} :
      op = .and ∨ op = .or →
      profile.supports op = true →
      WellFormed profile left →
      WellFormed profile right →
      WellFormed profile (.binary op left right)
  | comparison {op : Operator} {left right : String} :
      op.isComparison = true →
      profile.supports op = true →
      IsLiteralText left →
      IsLiteralText right →
      WellFormed profile (.binary op (.literal left) (.literal right))

end Expr

namespace Token

/-- If the token is a literal, its text is one of a literal. -/
def HasLiteralText (token : Token) : Prop :=
  token.kind = .literal → IsLiteralText token.text

end Token

theorem Derives.wellFormed
    {profile : Profile} {phrase : Phrase} {tokens : List Token}
    {expr : Expr} {nesting : Nat}
    (derivation : Derives profile phrase tokens expr nesting)
    (texts : ∀ token ∈ tokens, token.HasLiteralText) :
    expr.WellFormed profile := by
  induction derivation with
  | @literal token kind =>
      exact .literal (texts token (by simp) kind)
  | operandGroup _ _ _ inductionHypothesis
  | group _ _ _ inductionHypothesis =>
      apply inductionHypothesis
      intro token member
      exact texts token (by simp [member])
  | ofOperand _ inductionHypothesis
  | ofPrimary _ inductionHypothesis
  | ofComparison _ inductionHypothesis =>
      exact inductionHypothesis texts
  | negation sign _ inductionHypothesis =>
      apply Expr.WellFormed.negation sign.2
      apply inductionHypothesis
      intro token member
      exact texts token (by simp [member])
  | containment containment sign operand inductionHypothesis =>
      have inner := inductionHypothesis fun token member =>
        texts token (by simp [member])
      have literal := operand.isLiteral_of_operand
      obtain ⟨text, rfl⟩ := Expr.isLiteral_eq_true_iff.1 literal
      cases inner with
      | literal isText =>
          exact .containment containment sign.2 isText
  | comparison comparison sign left right leftHypothesis rightHypothesis =>
      have leftInner := leftHypothesis fun token member =>
        texts token (by simp [member])
      have rightInner := rightHypothesis fun token member =>
        texts token (by simp [member])
      have leftLiteral := left.isLiteral_of_operand
      have rightLiteral := right.isLiteral_of_operand
      obtain ⟨leftText, rfl⟩ := Expr.isLiteral_eq_true_iff.1 leftLiteral
      obtain ⟨rightText, rfl⟩ := Expr.isLiteral_eq_true_iff.1 rightLiteral
      cases leftInner with
      | literal leftIsText =>
          cases rightInner with
          | literal rightIsText =>
              exact .comparison comparison sign.2 leftIsText rightIsText
  | connective connective sign _ _ leftHypothesis rightHypothesis =>
      apply Expr.WellFormed.connective connective sign.2
      · apply leftHypothesis
        intro token member
        exact texts token (by simp [member])
      · apply rightHypothesis
        intro token member
        exact texts token (by simp [member])

/-! ## The literals of scanned tokens -/

theorem isQuotable_of_isBare {c : Char} (bare : isBare c = true) :
    isQuotable c = true := by
  simp [isQuotable, bare]

theorem Lexeme.hasLiteralText_toToken
    {profile : Profile} {lexeme : Lexeme} (allowed : lexeme.Allowed profile)
    (offset : Nat) :
    (lexeme.toToken offset).HasLiteralText := by
  intro kind
  have denotes := lexeme.denotes_toToken offset
  rw [kind] at denotes
  generalize (lexeme.toToken offset).text = text at denotes ⊢
  cases denotes with
  | bare unreserved =>
      refine ⟨by simpa using allowed.1, ?_⟩
      intro c member
      exact isQuotable_of_isBare (allowed.2 c member)
  | quoted text =>
      exact ⟨by simpa using allowed.1, allowed.2⟩

theorem Layout.hasLiteralText_pieceTokens
    {profile : Profile} {pieces : List (Lexeme × List Char)}
    (fits : PiecesFit profile pieces) (offset : Nat) :
    ∀ token ∈ pieceTokens offset pieces, token.HasLiteralText := by
  induction pieces generalizing offset with
  | nil =>
      simp [pieceTokens]
  | cons piece pieces inductionHypothesis =>
      obtain ⟨lexeme, gap⟩ := piece
      obtain ⟨allowed, _, _, others⟩ := fits
      rw [pieceTokens]
      intro token member
      rcases List.mem_cons.1 member with rfl | later
      · exact Lexeme.hasLiteralText_toToken allowed offset
      · exact inductionHypothesis others _ token later

theorem Token.hasLiteralText_of_scan
    {profile : Profile} {source : String} {tokens : List Token}
    (scanned : scan profile source = .ok tokens) :
    ∀ token ∈ tokens, token.HasLiteralText := by
  obtain ⟨layout, fits, _, rfl⟩ := scan_eq_ok_iff.1 scanned
  intro token member
  rcases List.mem_append.1 member with before | last
  · exact Layout.hasLiteralText_pieceTokens fits.2 _ token before
  · rw [List.mem_singleton.1 last]
    intro kind
    cases kind

namespace Query

theorem compile_eq_ok_iff
    {profile : Profile} {source : String} {query : Query} :
    compile profile source = .ok query ↔
      ∃ tokens root,
        Token.scan profile source = .ok tokens ∧
          Expr.ofTokens profile tokens = .ok root ∧
          query = ⟨source, profile, root⟩ := by
  unfold compile
  cases scanned : Token.scan profile source with
  | error error =>
      simp
  | ok tokens =>
      cases parsed : Expr.ofTokens profile tokens with
      | error error =>
          simp [parsed]
      | ok root =>
          simp [parsed, eq_comm]

/-- Every compiled query has a tree of the shape of its profile. -/
theorem wellFormed_root
    {profile : Profile} {source : String} {query : Query}
    (compiled : compile profile source = .ok query) :
    query.root.WellFormed profile := by
  obtain ⟨tokens, root, scanned, parsed, rfl⟩ := compile_eq_ok_iff.1 compiled
  obtain ⟨nesting, derivation, _⟩ := Expr.derives_of_ofTokens parsed
  apply derivation.wellFormed
  intro token member
  have scannedMember : token ∈ tokens := (List.takeWhile_sublist _).subset member
  exact Token.hasLiteralText_of_scan scanned token scannedMember

end Query

end CatalogFilter
