import CatalogFilter.Proofs.Recompilation
import CatalogFilter.Proofs.TokenPlaces

/-!
# Queries put together from queries

A query may be put between parentheses, and queries in parentheses may be joined. Nothing of their
texts reaches across the parentheses: a query ends in a literal or in a closing parenthesis, so its
last lexeme ends where the closing parenthesis comes, and what its tokens denote does not depend on
where they stand. The result can only be too deep, and a query nests no deeper than it has tokens.
-/

namespace CatalogFilter

/-! ## Tokens at another place -/

namespace Derives

variable {profile : Profile} {phrase : Phrase} {tokens : List Token} {expr : Expr} {nesting : Nat}

/-- What tokens denote depends on their kinds and texts alone, and on which operators there are. -/
theorem map
    {other : Profile} {move : Token → Token}
    (supports : ∀ op, profile.supports op = true → other.supports op = true)
    (kind : ∀ token, (move token).kind = token.kind)
    (text : ∀ token, (move token).text = token.text)
    (derivation : Derives profile phrase tokens expr nesting) :
    Derives other phrase (tokens.map move) expr nesting := by
  have writes {op : Operator} {token : Token} (written : token.Writes profile op) :
      (move token).Writes other op :=
    ⟨(kind token).trans written.1, supports op written.2⟩
  induction derivation with
  | @literal token isLiteral =>
      rw [← text token]
      exact .literal ((kind token).trans isLiteral)
  | operandGroup opening closing _ inductionHypothesis =>
      rw [List.map_cons, List.map_append]
      exact .operandGroup (writes opening) (writes closing) inductionHypothesis
  | ofOperand _ inductionHypothesis =>
      exact .ofOperand inductionHypothesis
  | negation sign _ inductionHypothesis =>
      exact .negation (writes sign) inductionHypothesis
  | containment containment sign _ inductionHypothesis =>
      exact .containment containment (writes sign) inductionHypothesis
  | group opening closing _ inductionHypothesis =>
      rw [List.map_cons, List.map_append]
      exact .group (writes opening) (writes closing) inductionHypothesis
  | ofPrimary _ inductionHypothesis =>
      exact .ofPrimary inductionHypothesis
  | comparison comparison sign _ _ leftHypothesis rightHypothesis =>
      rw [List.map_append, List.map_cons]
      exact .comparison comparison (writes sign) leftHypothesis rightHypothesis
  | ofComparison _ inductionHypothesis =>
      exact .ofComparison inductionHypothesis
  | connective connective sign _ _ leftHypothesis rightHypothesis =>
      rw [List.map_append, List.map_cons]
      exact .connective connective (writes sign) leftHypothesis rightHypothesis

end Derives

namespace Token

/-- The token behind this many bytes more. -/
def shift (bytes : Nat) (token : Token) : Token :=
  { token with offset := token.offset + bytes }

end Token

theorem Lexeme.shift_toToken (lexeme : Lexeme) (offset bytes : Nat) :
    (lexeme.toToken offset).shift bytes = lexeme.toToken (offset + bytes) := by
  cases lexeme with
  | symbol op | quoted inside =>
      rfl
  | word run =>
      simp only [toToken]
      split <;> rfl

namespace Layout

variable {profile : Profile} {pieces : List (Lexeme × List Char)} {rest : List Char}

theorem map_shift_pieceTokens
    (bytes offset : Nat) (pieces : List (Lexeme × List Char)) :
    (pieceTokens offset pieces).map (Token.shift bytes) = pieceTokens (offset + bytes) pieces := by
  induction pieces generalizing offset with
  | nil =>
      rfl
  | cons piece others inductionHypothesis =>
      obtain ⟨lexeme, gap⟩ := piece
      rw [pieceTokens, List.map_cons, Lexeme.shift_toToken, inductionHypothesis, pieceTokens,
        Nat.add_right_comm]

theorem kind_of_mem_pieceTokens (offset : Nat) (pieces : List (Lexeme × List Char)) :
    ∀ token ∈ pieceTokens offset pieces, token.kind ≠ .finish := by
  intro token member
  obtain ⟨front, back, split⟩ := List.append_of_mem member
  obtain ⟨_, lexeme, _, _, _, _, rfl⟩ := exists_piece_of_pieceTokens_eq split
  exact lexeme.kind_toToken_ne_finish _

/-! ## More text behind a query -/

/-- A lexeme that ends before a text also ends before a longer one. -/
theorem endsBefore_append
    {lexeme : Lexeme} {text : List Char} (nonempty : text ≠ [])
    (ends : lexeme.EndsBefore text) (rest : List Char) :
    lexeme.EndsBefore (text ++ rest) := by
  obtain ⟨c, others, rfl⟩ := List.exists_cons_of_ne_nil nonempty
  cases lexeme with
  | symbol op =>
      simpa [Lexeme.EndsBefore] using ends
  | word run =>
      simpa [Lexeme.EndsBefore] using ends
  | quoted inside =>
      trivial

/-- Pieces scan to their tokens also where more comes, if the last of them ends there. -/
theorem scansAs_spellPieces
    (fits : PiecesFit profile pieces)
    (ends : ∀ piece ∈ pieces.getLast?, piece.1.EndsBefore (piece.2 ++ rest)) (offset : Nat) :
    Token.ScansAs profile offset (spellPieces pieces) rest (pieceTokens offset pieces) := by
  induction pieces generalizing offset with
  | nil =>
      exact .gap rest nofun
  | cons piece others inductionHypothesis =>
      obtain ⟨lexeme, gap⟩ := piece
      obtain ⟨allowed, endsHere, gaps, othersFit⟩ := fits
      have endsAhead : lexeme.EndsBefore ((gap ++ spellPieces others) ++ rest) := by
        cases others with
        | nil =>
            simpa [spellPieces] using ends (lexeme, gap) rfl
        | cons next later =>
            have nonempty : gap ++ spellPieces (next :: later) ≠ [] := by
              simp [spellPieces_cons_ne_nil othersFit]
            exact endsBefore_append nonempty endsHere rest
      have endsLater : ∀ piece ∈ others.getLast?, piece.1.EndsBefore (piece.2 ++ rest) := by
        intro last member
        apply ends
        rw [List.getLast?_cons, Option.mem_def.1 member]
        rfl
      have front : Token.ScansAs profile offset lexeme.spelling _ [lexeme.toToken offset] :=
        .ofLexeme allowed endsAhead
      have blank :
          Token.ScansAs profile (offset + byteLength lexeme.spelling) gap
            (spellPieces others ++ rest) [] :=
        .gap _ gaps
      have later :=
        inductionHypothesis othersFit endsLater
          (offset + byteLength lexeme.spelling + byteLength gap)
      have whole := front.append (blank.append later)
      rw [pieceTokens, byteLength_append, ← Nat.add_assoc]
      exact whole

theorem PiecesFit.gap_of_mem
    {piece : Lexeme × List Char} (fits : PiecesFit profile pieces) (member : piece ∈ pieces) :
    ∀ c ∈ piece.2, isGap c = true := by
  induction pieces with
  | nil =>
      cases member
  | cons first others inductionHypothesis =>
      obtain ⟨_, _, gaps, othersFit⟩ := fits
      rcases List.mem_cons.1 member with rfl | later
      · exact gaps
      · exact inductionHypothesis othersFit later

/-- Where tokens want nothing more, the last lexeme ends before whatever is not bare. -/
theorem endsBefore_of_not_wantsMore
    {offset : Nat} (fits : PiecesFit profile pieces)
    (satisfied : ¬ Token.WantsMore (pieceTokens offset pieces))
    (ends : ∀ c ∈ rest.head?, isBare c = false) :
    ∀ piece ∈ pieces.getLast?, piece.1.EndsBefore (piece.2 ++ rest) := by
  rintro ⟨lexeme, gap⟩ last
  obtain ⟨before, rfl⟩ := List.getLast?_eq_some_iff.1 last
  cases lexeme with
  | symbol op =>
      -- A comparison at the end would want more.
      have closes : op = .closeParen := by
        apply Decidable.byContradiction
        intro opens
        apply satisfied
        intro token member
        rw [pieceTokens_append, pieceTokens, pieceTokens, List.getLast?_concat] at member
        cases member
        exact ⟨op, rfl, opens⟩
      subst closes
      simp [Lexeme.EndsBefore]
  | word run =>
      cases gap with
      | nil =>
          exact ends
      | cons c others =>
          have isBlank : isGap c = true :=
            fits.gap_of_mem (List.mem_append_right before List.mem_cons_self) c List.mem_cons_self
          rintro _ ⟨⟩
          apply Bool.eq_false_iff.2
          intro bare
          rw [Lexeme.isGap_eq_false_of_isBare bare] at isBlank
          cases isBlank
  | quoted inside =>
      trivial

end Layout

/-! ## Queries in parentheses -/

namespace Query

variable {profile : Profile} {source : String} {query : Query} {root : Expr} {nesting : Nat}

/-- The text of a query is written for its tree, wherever it stands. It nests no deeper than it has
tokens, and its tree is no deeper. -/
theorem exists_written_of_compile (compiled : compile profile source = .ok query) :
    ∃ tokens nesting,
      Token.scan profile source = .ok tokens ∧
        Written profile source.toList .expression query.root nesting ∧
          nesting ≤ (Token.beforeFinish tokens).length ∧
            query.root.depth ≤ (Token.beforeFinish tokens).length := by
  obtain ⟨tokens, root, scanned, parsed, rfl⟩ := compile_eq_ok_iff.1 compiled
  obtain ⟨nesting, derivation, _⟩ := Expr.derives_of_ofTokens parsed
  refine ⟨tokens, nesting, scanned, ?_, derivation.bounds_le_length⟩
  obtain ⟨⟨lead, pieces⟩, ⟨leadGaps, fits⟩, whole, rfl⟩ := Token.scan_eq_ok_iff.1 scanned
  have before :
      Token.beforeFinish
          (Layout.tokens ⟨lead, pieces⟩ ++ [⟨.finish, "", source.utf8ByteSize⟩]) =
        Layout.pieceTokens (byteLength lead) pieces := by
    apply Token.beforeFinish_append
    · exact Layout.kind_of_mem_pieceTokens _ pieces
    · rintro _ ⟨⟩
      rfl
  rw [before] at derivation
  intro offset rest ends
  have lastEnds := Layout.endsBefore_of_not_wantsMore fits derivation.not_wantsMore ends
  have blank :
      Token.ScansAs profile offset lead (Layout.spellPieces pieces ++ rest) [] :=
    .gap _ leadGaps
  have scans := blank.append (Layout.scansAs_spellPieces fits lastEnds _)
  rw [← whole]
  refine ⟨_, scans, ?_⟩
  rw [List.nil_append, Nat.add_comm, ← Layout.map_shift_pieceTokens]
  exact derivation.map (fun _ => id) (fun _ => rfl) (fun _ => rfl)

/-- Compiling `source` gives `root` or is too deep, and it is not too deep if none of `parts` has
more than 254 tokens. -/
def CompilesFrom (profile : Profile) (parts : List String) (source : String) (root : Expr) : Prop :=
  (compile profile source = .ok ⟨source, profile, root⟩ ∨
      ∃ offset, compile profile source = .error (.parse (.tooDeep offset))) ∧
    ((∀ part ∈ parts, ∀ tokens,
        Token.scan profile part = .ok tokens → (Token.beforeFinish tokens).length ≤ 254) →
      compile profile source = .ok ⟨source, profile, root⟩)

theorem compilesFrom_of_written
    {parts : List String} (written : Written profile source.toList .expression root nesting)
    (bounds :
      (∀ part ∈ parts, ∀ tokens,
          Token.scan profile part = .ok tokens → (Token.beforeFinish tokens).length ≤ 254) →
        root.depth ≤ maxDepth ∧ nesting ≤ maxDepth) :
    CompilesFrom profile parts source root := by
  rcases compile_of_written written with ⟨_, _, compiled⟩ | ⟨exceeds, refused⟩
  · exact ⟨.inl compiled, fun _ => compiled⟩
  · refine ⟨.inr refused, ?_⟩
    intro short
    have within := bounds short
    omega

section Joined

variable {first second : String} {left right : Query}

theorem compilesFrom_group (compiled : compile profile first = .ok left) :
    CompilesFrom profile [first] ("(" ++ first ++ ")") left.root := by
  obtain ⟨tokens, nesting, scanned, written, nestingBound, depthBound⟩ :=
    exists_written_of_compile compiled
  have grouped := written.group.imp .expression_of_primary
  have spelled : ("(" ++ first ++ ")").toList = ['('] ++ (first.toList ++ [')']) := by
    simp
  rw [← spelled] at grouped
  apply compilesFrom_of_written grouped
  intro short
  have length := short first (List.mem_cons_self ..) tokens scanned
  simp only [maxDepth]
  omega

theorem compilesFrom_negation (compiled : compile profile first = .ok left) :
    CompilesFrom profile [first] ("not (" ++ first ++ ")") (.unary .not left.root) := by
  obtain ⟨tokens, nesting, scanned, written, nestingBound, depthBound⟩ :=
    exists_written_of_compile compiled
  have supported : profile.supports .not = true := by
    cases profile <;> rfl
  have negated := (Written.unary supported written.group .negation).imp .expression_of_primary
  have spelled :
      ("not (" ++ first ++ ")").toList =
        Operator.not.symbol.toList ++ [' '] ++ (['('] ++ (first.toList ++ [')'])) := by
    simp [Operator.symbol]
  rw [← spelled] at negated
  apply compilesFrom_of_written negated
  intro short
  have length := short first (List.mem_cons_self ..) tokens scanned
  simp only [maxDepth, Expr.depth]
  omega

theorem compilesFrom_connective
    {op : Operator} (connective : op = .and ∨ op = .or)
    (firstCompiled : compile profile first = .ok left)
    (secondCompiled : compile profile second = .ok right) :
    CompilesFrom profile [first, second]
      ("(" ++ first ++ ") " ++ op.symbol ++ " (" ++ second ++ ")")
      (.binary op left.root right.root) := by
  obtain ⟨tokens, nesting, scanned, written, nestingBound, depthBound⟩ :=
    exists_written_of_compile firstCompiled
  obtain ⟨others, otherNesting, othersScanned, otherWritten, otherNestingBound, otherDepthBound⟩ :=
    exists_written_of_compile secondCompiled
  have supported : profile.supports op = true := by
    rcases connective with rfl | rfl <;> cases profile <;> rfl
  have joined :=
    Written.binary supported (written.group.imp .expression_of_primary)
      (otherWritten.group.imp .ofPrimary) (.connective connective)
  have spelled :
      ("(" ++ first ++ ") " ++ op.symbol ++ " (" ++ second ++ ")").toList =
        ['('] ++ (first.toList ++ [')']) ++
          ([' '] ++ (op.symbol.toList ++ [' '] ++ (['('] ++ (second.toList ++ [')'])))) := by
    simp
  rw [← spelled] at joined
  apply compilesFrom_of_written joined
  intro short
  have length := short first (by simp) tokens scanned
  have otherLength := short second (by simp) others othersScanned
  simp only [maxDepth, Expr.depth]
  omega

/-- Queries compile together as they do apart. In parentheses a query keeps its tree, and under
`not`, `and` and `or` the trees of the queries in parentheses are what these operators stand over.
The text can be too deep, and nothing else can go wrong; it is not too deep if the queries have at
most 254 tokens each. -/
theorem compile_combined
    (firstCompiled : compile profile first = .ok left)
    (secondCompiled : compile profile second = .ok right) :
    CompilesFrom profile [first] ("(" ++ first ++ ")") left.root ∧
      CompilesFrom profile [first] ("not (" ++ first ++ ")") (.unary .not left.root) ∧
      CompilesFrom profile [first, second] ("(" ++ first ++ ") and (" ++ second ++ ")")
        (.binary .and left.root right.root) ∧
      CompilesFrom profile [first, second] ("(" ++ first ++ ") or (" ++ second ++ ")")
        (.binary .or left.root right.root) := by
  have conjunction := compilesFrom_connective (.inl rfl) firstCompiled secondCompiled
  have disjunction := compilesFrom_connective (.inr rfl) firstCompiled secondCompiled
  have conjunctionText :
      "(" ++ first ++ ") " ++ Operator.and.symbol ++ " (" ++ second ++ ")" =
        "(" ++ first ++ ") and (" ++ second ++ ")" := by
    apply String.toList_injective
    simp [Operator.symbol]
  have disjunctionText :
      "(" ++ first ++ ") " ++ Operator.or.symbol ++ " (" ++ second ++ ")" =
        "(" ++ first ++ ") or (" ++ second ++ ")" := by
    apply String.toList_injective
    simp [Operator.symbol]
  rw [conjunctionText] at conjunction
  rw [disjunctionText] at disjunction
  exact ⟨compilesFrom_group firstCompiled, compilesFrom_negation firstCompiled, conjunction,
    disjunction⟩

/-- An alternative keeps together in parentheses: without them `or` would take all before it. -/
theorem compile_combined_alternative :
    compile .substring "lacks C" = .ok ⟨"lacks C", .substring, .unary .lacks (.literal "C")⟩ ∧
      compile .substring "has A or has B" =
        .ok ⟨"has A or has B", .substring,
          .binary .or (.unary .has (.literal "A")) (.unary .has (.literal "B"))⟩ ∧
      compile .substring "(lacks C) and (has A or has B)" =
        .ok ⟨"(lacks C) and (has A or has B)", .substring,
          .binary .and (.unary .lacks (.literal "C"))
            (.binary .or (.unary .has (.literal "A")) (.unary .has (.literal "B")))⟩ := by
  have firstCompiled :
      compile .substring "lacks C" =
        .ok ⟨"lacks C", .substring, .unary .lacks (.literal "C")⟩ := by
    decide +kernel
  have secondCompiled :
      compile .substring "has A or has B" =
        .ok ⟨"has A or has B", .substring,
          .binary .or (.unary .has (.literal "A")) (.unary .has (.literal "B"))⟩ := by
    decide +kernel
  have firstScanned :
      Token.scan .substring "lacks C" =
        .ok [⟨.operator .lacks, "lacks", 0⟩, ⟨.literal, "C", 6⟩, ⟨.finish, "", 7⟩] := by
    decide +kernel
  have secondScanned :
      Token.scan .substring "has A or has B" =
        .ok [⟨.operator .has, "has", 0⟩, ⟨.literal, "A", 4⟩, ⟨.operator .or, "or", 6⟩,
          ⟨.operator .has, "has", 9⟩, ⟨.literal, "B", 13⟩, ⟨.finish, "", 14⟩] := by
    decide +kernel
  refine ⟨firstCompiled, secondCompiled, ?_⟩
  apply (compile_combined firstCompiled secondCompiled).2.2.1.2
  intro part member tokens scanned
  simp only [List.mem_cons, List.not_mem_nil, or_false] at member
  rcases member with rfl | rfl
  · rw [firstScanned] at scanned
    cases scanned
    decide
  · rw [secondScanned] at scanned
    cases scanned
    decide

end Joined

end Query

end CatalogFilter
