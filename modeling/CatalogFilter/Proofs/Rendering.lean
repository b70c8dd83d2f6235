import CatalogFilter.Expr.Render
import CatalogFilter.Proofs.WellFormed

/-!
# Reading the written form back

The written form of a well-formed tree scans into tokens that denote this tree. They nest deeper
than the tree does, because every operator node brings parentheses of its own. So the written form
reads back as the same tree, unless it nests beyond the bound; it never reads as another tree.
-/

namespace CatalogFilter

namespace Expr

/-- How deeply the written form of a tree nests. Parentheses cost a level, and so do a prefix
operator and the right side of an infix operator. -/
def writtenNesting : Expr → Nat
  | .literal _ => 1
  | .unary _ operand => 2 + operand.writtenNesting
  | .binary _ left right => max (1 + left.writtenNesting) (2 + right.writtenNesting)

theorem depth_le_writtenNesting (expr : Expr) :
    expr.depth ≤ expr.writtenNesting := by
  induction expr with
  | literal text =>
      simp [depth, writtenNesting]
  | unary op operand inductionHypothesis =>
      simp only [depth, writtenNesting]
      omega
  | binary op left right leftHypothesis rightHypothesis =>
      simp only [depth, writtenNesting]
      omega

end Expr

/-! ## The lexemes of operators and literals -/

namespace Lexeme

/-- The lexeme that an operator is written as. -/
def ofOperator : Operator → Lexeme
  | .and => .word Operator.and.symbol.toList
  | .or => .word Operator.or.symbol.toList
  | .not => .word Operator.not.symbol.toList
  | .has => .word Operator.has.symbol.toList
  | .lacks => .word Operator.lacks.symbol.toList
  | op => .symbol op

theorem spelling_ofOperator (op : Operator) :
    (ofOperator op).spelling = op.symbol.toList := by
  cases op <;> rfl

theorem toToken_ofOperator (op : Operator) (offset : Nat) :
    (ofOperator op).toToken offset = ⟨.operator op, op.symbol, offset⟩ := by
  apply (denotes_iff offset).1
  cases op with
  | and | or | not | has | lacks =>
      exact .reserved (by decide)
  | eq | ne | gt | lt | ge | le | openParen | closeParen =>
      exact .symbol _

theorem allowed_reserved
    {word : String} (reserved : word ∈ reservedWords) (profile : Profile) :
    (Lexeme.word word.toList).Allowed profile := by
  have allNonempty : reservedWords.all (fun word => !word.toList.isEmpty) = true := by
    decide
  have allBare : reservedWords.all (fun word => word.toList.all isBare) = true := by
    decide
  have nonempty := List.all_eq_true.1 allNonempty word reserved
  have bare := List.all_eq_true.1 allBare word reserved
  refine ⟨?_, List.all_eq_true.1 bare⟩
  simpa using nonempty

theorem allowed_ofOperator
    {profile : Profile} {op : Operator} (supported : profile.supports op = true) :
    (ofOperator op).Allowed profile := by
  cases op with
  | and | or | not | has | lacks =>
      exact allowed_reserved (by decide) profile
  | openParen =>
      exact .inl rfl
  | closeParen =>
      exact .inr (.inl rfl)
  | eq | ne | gt | lt | ge | le =>
      have known : profile.hasComparisons = true := by
        rw [← supported]
        exact (Profile.supports_of_isComparison rfl).symm
      exact .inr (.inr ⟨rfl, known⟩)

theorem endsBefore_ofOperator (op : Operator) (rest : List Char) :
    (ofOperator op).EndsBefore (' ' :: rest) := by
  cases op <;> simp +decide [ofOperator, EndsBefore]

/-- The lexeme that a literal is written as. -/
def ofLiteral (text : String) : Lexeme :=
  if needsQuotes text then .quoted text.toList else .word text.toList

theorem spelling_ofLiteral (text : String) :
    (ofLiteral text).spelling = (Expr.literal text).render.toList := by
  rw [ofLiteral, Expr.render]
  split
  · simp [spelling]
  · rfl

theorem not_mem_reservedWords {text : String} (plain : needsQuotes text = false) :
    text ∉ reservedWords := by
  intro reserved
  simp [needsQuotes, reserved] at plain

theorem isBare_of_isQuotable
    {text : String} (plain : needsQuotes text = false)
    {c : Char} (member : c ∈ text.toList) (quotable : isQuotable c = true) :
    isBare c = true := by
  simp only [needsQuotes, Bool.or_eq_false_iff, List.any_eq_false, Bool.or_eq_true,
    decide_eq_true_eq, not_or] at plain
  obtain ⟨notSpace, notSlash⟩ := plain.1 c member
  simpa [isQuotable, notSpace, notSlash] using quotable

theorem toToken_ofLiteral (text : String) (offset : Nat) :
    (ofLiteral text).toToken offset = ⟨.literal, text, offset⟩ := by
  apply (denotes_iff offset).1
  rw [ofLiteral]
  by_cases quotes : needsQuotes text = true
  · rw [if_pos quotes]
    exact .quoted text
  · rw [if_neg quotes]
    have plain : needsQuotes text = false := by simpa using quotes
    exact .bare (not_mem_reservedWords plain)

theorem allowed_ofLiteral
    {text : String} (isText : IsLiteralText text) (profile : Profile) :
    (ofLiteral text).Allowed profile := by
  have nonempty : text.toList ≠ [] := by simpa using isText.1
  by_cases quotes : needsQuotes text = true
  · rw [ofLiteral, if_pos quotes]
    exact ⟨nonempty, isText.2⟩
  · rw [ofLiteral, if_neg quotes]
    have plain : needsQuotes text = false := by simpa using quotes
    refine ⟨nonempty, ?_⟩
    intro c member
    exact isBare_of_isQuotable plain member (isText.2 c member)

theorem endsBefore_ofLiteral
    (text : String) {rest : List Char}
    (ends : ∀ c ∈ rest.head?, isBare c = false) :
    (ofLiteral text).EndsBefore rest := by
  rw [ofLiteral]
  split
  · trivial
  · exact ends

end Lexeme

/-! ## Scanning piece by piece -/

namespace Token

/-- Scanning takes these tokens from `text` when `rest` comes after it. -/
def ScansAs (profile : Profile) (offset : Nat) (text rest : List Char)
    (tokens : List Token) : Prop :=
  ∀ found,
    scanFrom profile offset (text ++ rest) found =
      scanFrom profile (offset + byteLength text) rest (tokens.reverse ++ found)

namespace ScansAs

variable {profile : Profile} {offset : Nat} {text more rest : List Char}
variable {tokens others : List Token}

theorem append
    (first : ScansAs profile offset text (more ++ rest) tokens)
    (second : ScansAs profile (offset + byteLength text) more rest others) :
    ScansAs profile offset (text ++ more) rest (tokens ++ others) := by
  intro found
  rw [List.append_assoc, first, second, byteLength_append, Nat.add_assoc,
    List.reverse_append, List.append_assoc]

theorem ofLexeme
    {lexeme : Lexeme}
    (allowed : lexeme.Allowed profile) (ends : lexeme.EndsBefore rest) :
    ScansAs profile offset lexeme.spelling rest [lexeme.toToken offset] := by
  intro found
  exact scanFrom_lexeme allowed ends

theorem ofOperator
    {op : Operator} (supported : profile.supports op = true)
    (ends : (Lexeme.ofOperator op).EndsBefore rest) :
    ScansAs profile offset op.symbol.toList rest
      [⟨.operator op, op.symbol, offset⟩] := by
  rw [← Lexeme.spelling_ofOperator, ← Lexeme.toToken_ofOperator]
  exact ofLexeme (Lexeme.allowed_ofOperator supported) ends

theorem gap (rest : List Char) (gaps : ∀ c ∈ text, isGap c = true) :
    ScansAs profile offset text rest [] := by
  intro found
  exact scanFrom_gaps rest gaps

theorem spaced
    {op : Operator} (supported : profile.supports op = true) :
    ScansAs profile offset (op.symbol.toList ++ [' ']) rest
      [⟨.operator op, op.symbol, offset⟩] := by
  have symbol :
      ScansAs profile offset op.symbol.toList ([' '] ++ rest)
        [⟨.operator op, op.symbol, offset⟩] :=
    ofOperator supported (Lexeme.endsBefore_ofOperator op rest)
  have blank : ScansAs profile (offset + byteLength op.symbol.toList) [' '] rest [] :=
    gap rest (by simp [isGap])
  exact symbol.append blank

theorem scan_eq
    {source : String} (scans : ScansAs profile 0 source.toList [] tokens) :
    scan profile source = .ok (tokens ++ [⟨.finish, "", source.utf8ByteSize⟩]) := by
  have scanned := scans []
  rw [List.append_nil, scanFrom_nil, List.append_nil, List.reverse_reverse,
    Nat.zero_add, byteLength_toList] at scanned
  exact scanned

end ScansAs

end Token

/-! ## What a text is written for -/

/-- Wherever `text` stands with no bare character after it, it scans into tokens that
are a phrase of this kind and denote `expr`. -/
def Written (profile : Profile) (text : List Char) (phrase : Phrase)
    (expr : Expr) (nesting : Nat) : Prop :=
  ∀ (offset : Nat) (rest : List Char),
    (∀ c ∈ rest.head?, isBare c = false) →
      ∃ tokens,
        Token.ScansAs profile offset text rest tokens ∧
          Derives profile phrase tokens expr nesting

namespace Written

variable {profile : Profile} {text : List Char} {phrase : Phrase}
variable {expr : Expr} {nesting : Nat}

theorem imp
    {other : Phrase} (written : Written profile text phrase expr nesting)
    (rule : ∀ {tokens : List Token},
      Derives profile phrase tokens expr nesting →
        Derives profile other tokens expr nesting) :
    Written profile text other expr nesting := by
  intro offset rest ends
  obtain ⟨tokens, scans, derivation⟩ := written offset rest ends
  exact ⟨tokens, scans, rule derivation⟩

theorem literal {text : String} (isText : IsLiteralText text) :
    Written profile (Expr.literal text).render.toList .operand
      (.literal text) 1 := by
  intro offset rest ends
  refine ⟨[⟨.literal, text, offset⟩], ?_, .literal rfl⟩
  rw [← Lexeme.spelling_ofLiteral, ← Lexeme.toToken_ofLiteral]
  apply Token.ScansAs.ofLexeme
  · exact Lexeme.allowed_ofLiteral isText profile
  · exact Lexeme.endsBefore_ofLiteral text ends

theorem group (inner : Written profile text .expression expr nesting) :
    Written profile (['('] ++ (text ++ [')'])) .primary expr (nesting + 1) := by
  intro offset rest _
  have supportsOpen : profile.supports .openParen = true := by
    cases profile <;> rfl
  have supportsClose : profile.supports .closeParen = true := by
    cases profile <;> rfl
  have ends : ∀ c ∈ (')' :: rest).head?, isBare c = false := by
    rintro c ⟨⟩
    decide
  obtain ⟨tokens, scans, derivation⟩ :=
    inner (offset + byteLength ['(']) (')' :: rest) ends
  have opening :
      Token.ScansAs profile offset ['('] ((text ++ [')']) ++ rest)
        [⟨.operator .openParen, "(", offset⟩] :=
    .ofOperator supportsOpen (by simp [Lexeme.ofOperator, Lexeme.EndsBefore])
  have closing :
      Token.ScansAs profile (offset + byteLength ['('] + byteLength text) [')'] rest
        [⟨.operator .closeParen, ")", offset + byteLength ['('] + byteLength text⟩] :=
    .ofOperator supportsClose (by simp [Lexeme.ofOperator, Lexeme.EndsBefore])
  refine ⟨_, opening.append (scans.append closing), ?_⟩
  exact .group ⟨rfl, supportsOpen⟩ ⟨rfl, supportsClose⟩ derivation

theorem unary
    {op : Operator} (supported : profile.supports op = true)
    (inner : Written profile text phrase expr nesting)
    (rule : ∀ {sign : Token} {tokens : List Token},
      sign.Writes profile op →
        Derives profile phrase tokens expr nesting →
          Derives profile .primary (sign :: tokens) (.unary op expr) (nesting + 1)) :
    Written profile (op.symbol.toList ++ [' '] ++ text) .primary
      (.unary op expr) (nesting + 1) := by
  intro offset rest ends
  obtain ⟨tokens, scans, derivation⟩ :=
    inner (offset + byteLength (op.symbol.toList ++ [' '])) rest ends
  have signed := (Token.ScansAs.spaced supported).append scans
  exact ⟨_, signed, rule ⟨rfl, supported⟩ derivation⟩

/-- An infix operator with blanks around it, between what the operator takes. -/
theorem binary
    {op : Operator} {leftText rightText : List Char}
    {leftPhrase rightPhrase : Phrase} {left right : Expr}
    {leftNesting rightNesting : Nat}
    (supported : profile.supports op = true)
    (before : Written profile leftText leftPhrase left leftNesting)
    (after : Written profile rightText rightPhrase right rightNesting)
    (rule : ∀ {sign : Token} {leftTokens rightTokens : List Token},
      sign.Writes profile op →
        Derives profile leftPhrase leftTokens left leftNesting →
          Derives profile rightPhrase rightTokens right rightNesting →
            Derives profile phrase (leftTokens ++ sign :: rightTokens)
              (.binary op left right) nesting) :
    Written profile
      (leftText ++ ([' '] ++ (op.symbol.toList ++ [' '] ++ rightText)))
      phrase (.binary op left right) nesting := by
  intro offset rest ends
  have blankEnds :
      ∀ c ∈ ([' '] ++ (op.symbol.toList ++ [' '] ++ rightText) ++ rest).head?,
        isBare c = false := by
    rintro c ⟨⟩
    decide
  obtain ⟨leftTokens, leftScans, leftDerivation⟩ := before offset _ blankEnds
  obtain ⟨rightTokens, rightScans, rightDerivation⟩ :=
    after (offset + byteLength leftText + byteLength [' '] +
      byteLength (op.symbol.toList ++ [' '])) rest ends
  have blank :
      Token.ScansAs profile (offset + byteLength leftText) [' ']
        (op.symbol.toList ++ [' '] ++ rightText ++ rest) [] :=
    .gap _ (by simp [isGap])
  have signed := (Token.ScansAs.spaced supported).append rightScans
  refine ⟨_, leftScans.append (blank.append signed), ?_⟩
  exact rule ⟨rfl, supported⟩ leftDerivation rightDerivation

theorem exists_scan
    {source : String}
    (written : Written profile source.toList .expression expr nesting) :
    ∃ tokens,
      Token.scan profile source = .ok tokens ∧
        (expr.depth ≤ maxDepth ∧ nesting ≤ maxDepth ∧
            Expr.ofTokens profile tokens = .ok expr ∨
          (maxDepth < expr.depth ∨ maxDepth < nesting) ∧
            ∃ offset, Expr.ofTokens profile tokens = .error (.tooDeep offset)) := by
  have nothing : ∀ c ∈ ([] : List Char).head?, isBare c = false := by
    simp
  obtain ⟨tokens, scans, derivation⟩ := written 0 [] nothing
  refine ⟨_, scans.scan_eq, ?_⟩
  apply Expr.ofTokens_of_derives
  rw [Token.beforeFinish_append derivation.kind_ne_finish]
  · exact derivation
  · intro token ahead
    cases ahead
    rfl

end Written

namespace Expr

theorem toList_render_unary (op : Operator) (operand : Expr) :
    (unary op operand).render.toList =
      ['('] ++ (op.symbol.toList ++ [' '] ++ operand.render.toList ++ [')']) := by
  simp [render]

theorem toList_render_binary (op : Operator) (left right : Expr) :
    (binary op left right).render.toList =
      ['('] ++ (left.render.toList ++
        ([' '] ++ (op.symbol.toList ++ [' '] ++ right.render.toList)) ++ [')']) := by
  simp [render]

theorem WellFormed.written
    {profile : Profile} {expr : Expr} (wellFormed : expr.WellFormed profile) :
    Written profile expr.render.toList .primary expr expr.writtenNesting := by
  induction wellFormed with
  | literal isText =>
      exact (Written.literal isText).imp .ofOperand
  | @negation operand supported _ inductionHypothesis =>
      have inner := Written.unary supported inductionHypothesis .negation
      have whole := inner.imp .expression_of_primary
      rw [toList_render_unary, writtenNesting, Nat.add_comm]
      exact whole.group
  | containment containment supported isText =>
      have inner :=
        Written.unary supported (.literal isText) (.containment containment)
      have whole := inner.imp .expression_of_primary
      rw [toList_render_unary]
      exact whole.group
  | @connective op left right connective supported _ _ leftHypothesis
      rightHypothesis =>
      have before := leftHypothesis.imp .expression_of_primary
      have after := rightHypothesis.imp .ofPrimary
      have inner :=
        Written.binary supported before after (.connective connective)
      have nesting :
          (binary op left right).writtenNesting =
            max left.writtenNesting (1 + right.writtenNesting) + 1 := by
        simp only [writtenNesting]
        omega
      rw [toList_render_binary, nesting]
      exact inner.group
  | comparison comparison supported leftIsText rightIsText =>
      have inner :=
        Written.binary supported (.literal leftIsText) (.literal rightIsText)
          (.comparison comparison)
      have whole := inner.imp .ofComparison
      rw [toList_render_binary]
      exact whole.group

/-- Scanning the written form of a well-formed tree succeeds. Its tokens parse as that tree if the
written form keeps the bound on nesting, and are refused as too deep otherwise. -/
theorem WellFormed.exists_scan_render
    {profile : Profile} {expr : Expr} (wellFormed : expr.WellFormed profile) :
    ∃ tokens,
      Token.scan profile expr.render = .ok tokens ∧
        (expr.writtenNesting ≤ maxDepth ∧ ofTokens profile tokens = .ok expr ∨
          maxDepth < expr.writtenNesting ∧
            ∃ offset, ofTokens profile tokens = .error (.tooDeep offset)) := by
  have written := wellFormed.written.imp .expression_of_primary
  have shallow : expr.depth ≤ expr.writtenNesting :=
    expr.depth_le_writtenNesting
  obtain ⟨tokens, scanned, outcome⟩ := written.exists_scan
  rcases outcome with ⟨_, within, accepted⟩ | ⟨exceeds, refused⟩
  · exact ⟨tokens, scanned, .inl ⟨within, accepted⟩⟩
  · exact ⟨tokens, scanned, .inr ⟨by omega, refused⟩⟩

/-- The written form of a well-formed tree always scans. It parses as this tree exactly when it
nests no deeper than the bound, and as too deep otherwise. -/
theorem ofTokens_scan_render
    {profile : Profile} {expr : Expr} (wellFormed : expr.WellFormed profile) :
    ∃ tokens,
      Token.scan profile expr.render = .ok tokens ∧
        (ofTokens profile tokens = .ok expr ↔ expr.writtenNesting ≤ maxDepth) ∧
        (maxDepth < expr.writtenNesting →
          ∃ offset, ofTokens profile tokens = .error (.tooDeep offset)) := by
  obtain ⟨tokens, scanned, outcome⟩ := wellFormed.exists_scan_render
  refine ⟨tokens, scanned, ?_⟩
  rcases outcome with ⟨within, accepted⟩ | ⟨exceeds, offset, refused⟩
  · constructor
    · exact iff_of_true accepted within
    · intro exceeds
      omega
  · constructor
    · apply iff_of_false
      · rw [refused]
        intro accepted
        cases accepted
      · omega
    · intro _
      exact ⟨offset, refused⟩

/-- A reserved word and a blank inside literals, under operators of every arity. -/
theorem ofTokens_scan_render_quoted :
    (binary .and (unary .has (literal "and"))
        (unary .not (unary .lacks (literal "Data East")))).WellFormed .substring ∧
      ∃ tokens,
        Token.scan .substring "((has \"and\") and (not (lacks \"Data East\")))" = .ok tokens ∧
          ofTokens .substring tokens =
            .ok (binary .and (unary .has (literal "and"))
              (unary .not (unary .lacks (literal "Data East")))) := by
  have isText : IsLiteralText "and" ∧ IsLiteralText "Data East" := by
    decide
  have wellFormed :
      (binary .and (unary .has (literal "and"))
        (unary .not (unary .lacks (literal "Data East")))).WellFormed .substring :=
    .connective (.inl rfl) rfl (.containment (.inl rfl) rfl isText.1)
      (.negation rfl (.containment (.inr rfl) rfl isText.2))
  obtain ⟨tokens, scanned, accepted, _⟩ := ofTokens_scan_render wellFormed
  exact ⟨wellFormed, tokens, scanned, accepted.2 (by decide)⟩

end Expr

end CatalogFilter
