import CatalogFilter.Proofs.Lexemes
import CatalogFilter.Token.Scan

/-!
# How a query is laid out

A query is lexemes with gaps before, between and after them. Every text begins with such a layout,
and it goes on, if at all, with a character at which no lexeme starts. Scanning gives the tokens of
the layout when it is the whole text, and otherwise the place where it stops. Which tokens a layout
has is said twice: `Layout.Reads` states kind, text and offset of each, and `Layout.pieceTokens`
computes them.
-/

namespace CatalogFilter

/-- The gap before the first lexeme, and each lexeme with the gap after it. -/
structure Layout where
  lead : List Char
  pieces : List (Lexeme × List Char)
deriving DecidableEq, Repr

namespace Layout

/-- How lexemes and the gaps after them are written. -/
def spellPieces : List (Lexeme × List Char) → List Char
  | [] => []
  | (lexeme, gap) :: pieces => lexeme.spelling ++ (gap ++ spellPieces pieces)

def text (layout : Layout) : List Char :=
  layout.lead ++ spellPieces layout.pieces

/-- One token for each lexeme, with the bytes before it as its offset. -/
def pieceTokens : Nat → List (Lexeme × List Char) → List Token
  | _, [] => []
  | offset, (lexeme, gap) :: pieces =>
      lexeme.toToken offset ::
        pieceTokens (offset + byteLength (lexeme.spelling ++ gap)) pieces

def tokens (layout : Layout) : List Token :=
  pieceTokens (byteLength layout.lead) layout.pieces

/-- Gaps are gaps, and every lexeme is one of the profile that ends before what follows it. -/
def PiecesFit (profile : Profile) : List (Lexeme × List Char) → Prop
  | [] => True
  | (lexeme, gap) :: pieces =>
      lexeme.Allowed profile ∧
        lexeme.EndsBefore (gap ++ spellPieces pieces) ∧
          (∀ c ∈ gap, isGap c = true) ∧
            PiecesFit profile pieces

def Fits (profile : Profile) (layout : Layout) : Prop :=
  (∀ c ∈ layout.lead, isGap c = true) ∧ PiecesFit profile layout.pieces

/-- The tokens of pieces that stand behind the text `before`: one for each lexeme, with the kind
and the text that the lexeme denotes, and with all bytes in front of the lexeme as its offset. -/
inductive Reads : List Char → List (Lexeme × List Char) → List Token → Prop
  | nil (before : List Char) : Reads before [] []
  | cons {before gap : List Char} {lexeme : Lexeme} {token : Token}
      {pieces : List (Lexeme × List Char)} {tokens : List Token} :
      lexeme.Denotes token.kind token.text →
        token.offset = (String.ofList before).utf8ByteSize →
          Reads (before ++ (lexeme.spelling ++ gap)) pieces tokens →
            Reads before ((lexeme, gap) :: pieces) (token :: tokens)

theorem reads_iff
    {before : List Char} {pieces : List (Lexeme × List Char)} {tokens : List Token} :
    Reads before pieces tokens ↔ tokens = pieceTokens (byteLength before) pieces := by
  induction pieces generalizing before tokens with
  | nil =>
      constructor
      · intro reads
        cases reads
        rfl
      · intro empty
        rw [empty]
        exact .nil before
  | cons piece pieces inductionHypothesis =>
      obtain ⟨lexeme, gap⟩ := piece
      rw [pieceTokens, ← byteLength_append]
      constructor
      · intro reads
        cases reads with
        | cons denotes place others =>
            rename_i token tokens
            have first : lexeme.toToken (byteLength before) = token := by
              rw [byteLength_eq_utf8ByteSize, ← place]
              exact (Lexeme.denotes_iff token.offset).1 denotes
            rw [first, inductionHypothesis.1 others]
      · intro computed
        rw [computed]
        have denotes := lexeme.denotes_toToken (byteLength before)
        have place : (lexeme.toToken (byteLength before)).offset =
            (String.ofList before).utf8ByteSize := by
          rw [Lexeme.offset_toToken, byteLength_eq_utf8ByteSize]
        exact .cons denotes place (inductionHypothesis.2 rfl)

end Layout

namespace Token

/-! ## One step of scanning -/

section Steps

variable {profile : Profile} {offset : Nat} {found : List Token}

theorem scanFrom_nil :
    scanFrom profile offset [] found =
      .ok (found.reverse ++ [⟨.finish, "", offset⟩]) := by
  rw [scanFrom, List.reverse_cons]

theorem scanFrom_gap {c : Char} (gap : isGap c = true) (rest : List Char) :
    scanFrom profile offset (c :: rest) found =
      scanFrom profile (offset + c.utf8Size) rest found := by
  rw [scanFrom, if_pos gap]

theorem scanFrom_gaps
    {gap : List Char} (rest : List Char) (gaps : ∀ c ∈ gap, isGap c = true) :
    scanFrom profile offset (gap ++ rest) found =
      scanFrom profile (offset + byteLength gap) rest found := by
  induction gap generalizing offset with
  | nil =>
      simp
  | cons c others inductionHypothesis =>
      have first : isGap c = true := gaps c (List.mem_cons_self ..)
      have later : ∀ d ∈ others, isGap d = true := by
        intro d member
        exact gaps d (List.mem_cons_of_mem c member)
      rw [List.cons_append, scanFrom_gap first, inductionHypothesis later,
        byteLength_cons, Nat.add_assoc]

theorem scanFrom_lexeme
    {lexeme : Lexeme} {rest : List Char}
    (allowed : lexeme.Allowed profile) (ends : lexeme.EndsBefore rest) :
    scanFrom profile offset (lexeme.spelling ++ rest) found =
      scanFrom profile (offset + lexeme.size) rest
        (lexeme.toToken offset :: found) := by
  have taken := Lexeme.next?_of_allowed allowed ends
  obtain ⟨c, others, spelled, notGap⟩ := Lexeme.exists_cons_spelling allowed
  rw [spelled, List.cons_append] at taken ⊢
  rw [scanFrom, if_neg (by simp [notGap])]
  split
  · rename_i nothing
    rw [taken] at nothing
    cases nothing
  · rename_i other after another
    rw [taken] at another
    cases another
    rfl

theorem scanFrom_of_next?_eq_none
    {c : Char} {rest : List Char} (notGap : isGap c = false)
    (nothing : Lexeme.next? profile (c :: rest) = none) :
    scanFrom profile offset (c :: rest) found =
      .error ⟨offset, String.ofList (Text.firstWord (c :: rest))⟩ := by
  rw [scanFrom, if_neg (by simp [notGap])]
  split
  · rfl
  · rename_i something
    rw [nothing] at something
    cases something

end Steps

/-! ## Scanning a layout -/

theorem scanFrom_pieces
    {profile : Profile} {pieces : List (Lexeme × List Char)}
    (fits : Layout.PiecesFit profile pieces) (offset : Nat) (found : List Token) :
    scanFrom profile offset (Layout.spellPieces pieces) found =
      .ok (found.reverse ++ Layout.pieceTokens offset pieces ++
        [⟨.finish, "", offset + byteLength (Layout.spellPieces pieces)⟩]) := by
  induction pieces generalizing offset found with
  | nil =>
      simp [Layout.spellPieces, Layout.pieceTokens, scanFrom_nil]
  | cons piece pieces inductionHypothesis =>
      obtain ⟨lexeme, gap⟩ := piece
      obtain ⟨allowed, ends, gaps, others⟩ := fits
      rw [Layout.spellPieces, scanFrom_lexeme allowed ends, scanFrom_gaps _ gaps,
        inductionHypothesis others]
      simp [Layout.pieceTokens, Lexeme.size, byteLength_append, Nat.add_assoc]

theorem scan_of_fits
    {profile : Profile} {layout : Layout} {source : String}
    (fits : layout.Fits profile) (whole : layout.text = source.toList) :
    scan profile source =
      .ok (layout.tokens ++ [⟨.finish, "", source.utf8ByteSize⟩]) := by
  rw [scan, ← whole, Layout.text, scanFrom_gaps _ fits.1, scanFrom_pieces fits.2,
    ← byteLength_toList, ← whole]
  simp [Layout.tokens, Layout.text, byteLength_append]

end Token

namespace Layout

/-- No gap and no lexeme starts here. -/
def Stuck (profile : Profile) (text : List Char) : Prop :=
  ∃ c rest,
    text = c :: rest ∧ isGap c = false ∧ Lexeme.next? profile text = none

/-- Scanning `text` stops with an error behind `before`, where `after` stands. -/
def StopsAt (profile : Profile) (text before after : List Char) : Prop :=
  ∀ offset found,
    Token.scanFrom profile offset text found =
      .error ⟨offset + byteLength before, String.ofList (Text.firstWord after)⟩

theorem StopsAt.append
    {profile : Profile} {text more before after : List Char}
    (stops : StopsAt profile text before after)
    (leads : ∀ offset found, ∃ found',
      Token.scanFrom profile offset (more ++ text) found =
        Token.scanFrom profile (offset + byteLength more) text found') :
    StopsAt profile (more ++ text) (more ++ before) after := by
  intro offset found
  obtain ⟨found', led⟩ := leads offset found
  rw [led, stops, byteLength_append, Nat.add_assoc]

/-- Every text is a layout up to its end or to a place where scanning stops. -/
theorem exists_fits (profile : Profile) :
    ∀ text : List Char,
      ∃ (layout : Layout) (after : List Char),
        layout.Fits profile ∧
          text = layout.text ++ after ∧
            (after = [] ∨
              Stuck profile after ∧ StopsAt profile text layout.text after)
  | [] =>
      ⟨⟨[], []⟩, [], by simp [Fits, PiecesFit], rfl, .inl rfl⟩
  | c :: rest => by
      by_cases gap : isGap c = true
      · -- The gap belongs to the lead of what follows.
        obtain ⟨layout, after, fits, split, outcome⟩ := exists_fits profile rest
        have leadFits : ∀ d ∈ c :: layout.lead, isGap d = true := by
          simpa [gap] using fits.1
        refine ⟨⟨c :: layout.lead, layout.pieces⟩, after, ⟨leadFits, fits.2⟩, ?_, ?_⟩
        · simp [split, text]
        · rcases outcome with finished | ⟨stuck, stops⟩
          · exact .inl finished
          · have onward : StopsAt profile ([c] ++ rest) ([c] ++ layout.text) after := by
              apply stops.append
              intro offset found
              refine ⟨found, Token.scanFrom_gaps rest ?_⟩
              simpa using gap
            exact .inr ⟨stuck, onward⟩
      · have notGap : isGap c = false := by simpa using gap
        cases taken : Lexeme.next? profile (c :: rest) with
        | none =>
            refine ⟨⟨[], []⟩, c :: rest, by simp [Fits, PiecesFit], rfl, .inr ⟨?_, ?_⟩⟩
            · exact ⟨c, rest, rfl, notGap, taken⟩
            · intro offset found
              rw [Token.scanFrom_of_next?_eq_none notGap taken]
              rfl
        | some found =>
            -- The lexeme goes before what follows, whose lead is the gap after it.
            obtain ⟨lexeme, others⟩ := found
            have shorter := Lexeme.length_lt_of_next? taken
            obtain ⟨spelled, allowed, ends⟩ := Lexeme.next?_eq_some_iff.1 taken
            obtain ⟨layout, after, fits, split, outcome⟩ := exists_fits profile others
            have endsEarlier : lexeme.EndsBefore layout.text := by
              rw [split] at ends
              exact ends.of_append
            refine ⟨⟨[], (lexeme, layout.lead) :: layout.pieces⟩, after,
              ⟨by simp, allowed, endsEarlier, fits.1, fits.2⟩, ?_, ?_⟩
            · simp [spelled, split, text, spellPieces]
            · rcases outcome with finished | ⟨stuck, stops⟩
              · exact .inl finished
              · refine .inr ⟨stuck, ?_⟩
                rw [spelled]
                apply stops.append
                intro offset found
                exact ⟨_, Token.scanFrom_lexeme allowed ends⟩
termination_by text => text.length
decreasing_by
  · simp
  · exact shorter

/-! ## One layout for a text -/

section Unique

variable {profile : Profile}

theorem isGap_head?_spellPieces
    {pieces : List (Lexeme × List Char)} (fits : PiecesFit profile pieces) :
    ∀ c ∈ (spellPieces pieces).head?, isGap c = false := by
  cases pieces with
  | nil =>
      simp [spellPieces]
  | cons piece pieces =>
      obtain ⟨lexeme, gap⟩ := piece
      obtain ⟨c, others, spelled, notGap⟩ := Lexeme.exists_cons_spelling fits.1
      rw [spellPieces, spelled]
      intro d ahead
      cases ahead
      exact notGap

/-- The gap in front of lexemes can be told from them. -/
theorem gap_unique
    {firstGap secondGap : List Char} {first second : List (Lexeme × List Char)}
    (firstGaps : ∀ c ∈ firstGap, isGap c = true)
    (firstFits : PiecesFit profile first)
    (secondGaps : ∀ c ∈ secondGap, isGap c = true)
    (secondFits : PiecesFit profile second)
    (same : firstGap ++ spellPieces first = secondGap ++ spellPieces second) :
    firstGap = secondGap ∧ spellPieces first = spellPieces second := by
  have gaps : firstGap = secondGap := by
    calc
      firstGap = (firstGap ++ spellPieces first).takeWhile isGap :=
        (takeWhile_run firstGaps (isGap_head?_spellPieces firstFits)).symm
      _ = (secondGap ++ spellPieces second).takeWhile isGap := by
        rw [same]
      _ = secondGap :=
        takeWhile_run secondGaps (isGap_head?_spellPieces secondFits)
  subst gaps
  exact ⟨rfl, List.append_cancel_left same⟩

theorem spellPieces_cons_ne_nil
    {piece : Lexeme × List Char} {pieces : List (Lexeme × List Char)}
    (fits : PiecesFit profile (piece :: pieces)) :
    spellPieces (piece :: pieces) ≠ [] := by
  obtain ⟨c, others, spelled, _⟩ := Lexeme.exists_cons_spelling fits.1
  simp [spellPieces, spelled]

theorem pieces_unique :
    ∀ {first second : List (Lexeme × List Char)},
      PiecesFit profile first →
        PiecesFit profile second →
          spellPieces first = spellPieces second →
            first = second
  | [], [], _, _, _ =>
      rfl
  | [], _ :: _, _, secondFits, same =>
      absurd same.symm (spellPieces_cons_ne_nil secondFits)
  | _ :: _, [], firstFits, _, same =>
      absurd same (spellPieces_cons_ne_nil firstFits)
  | (lexeme, gap) :: pieces, (other, otherGap) :: others, firstFits, secondFits, same => by
      obtain ⟨allowed, ends, gaps, fits⟩ := firstFits
      obtain ⟨otherAllowed, otherEnds, otherGaps, otherFits⟩ := secondFits
      -- The text itself decides which lexeme it starts with.
      have taken := Lexeme.next?_of_allowed allowed ends
      have otherTaken := Lexeme.next?_of_allowed otherAllowed otherEnds
      simp only [spellPieces] at same
      rw [same, otherTaken] at taken
      simp only [Option.some.injEq, Prod.mk.injEq] at taken
      obtain ⟨rfl, behind⟩ := taken
      obtain ⟨rfl, spelled⟩ := gap_unique otherGaps otherFits gaps fits behind
      rw [pieces_unique fits otherFits spelled.symm]

/-- A text is laid out in one way. -/
theorem eq_of_text_eq
    {first second : Layout}
    (firstFits : first.Fits profile) (secondFits : second.Fits profile)
    (same : first.text = second.text) :
    first = second := by
  obtain ⟨lead, pieces⟩ := first
  obtain ⟨otherLead, others⟩ := second
  obtain ⟨leads, spelled⟩ :=
    gap_unique firstFits.1 firstFits.2 secondFits.1 secondFits.2 same
  have samePieces : pieces = others :=
    pieces_unique firstFits.2 secondFits.2 spelled
  rw [Layout.mk.injEq]
  exact ⟨leads, samePieces⟩

end Unique

end Layout

namespace Token

theorem scan_eq_ok_iff
    {profile : Profile} {source : String} {tokens : List Token} :
    scan profile source = .ok tokens ↔
      ∃ layout : Layout,
        layout.Fits profile ∧
          layout.text = source.toList ∧
          tokens = layout.tokens ++ [⟨.finish, "", source.utf8ByteSize⟩] := by
  constructor
  · intro scanned
    obtain ⟨layout, after, fits, split, outcome⟩ :=
      Layout.exists_fits profile source.toList
    rcases outcome with rfl | ⟨_, stops⟩
    · have whole : layout.text = source.toList := by
        simpa using split.symm
      rw [scan_of_fits fits whole] at scanned
      exact ⟨layout, fits, whole, (Except.ok.inj scanned).symm⟩
    · rw [scan, stops] at scanned
      cases scanned
  · rintro ⟨layout, fits, whole, rfl⟩
    exact scan_of_fits fits whole

/-- Where scanning fails, the text before scans, and neither a gap nor a lexeme comes
next. -/
theorem exists_split_of_scan_eq_error
    {profile : Profile} {source : String} {error : LexicalError}
    (failed : scan profile source = .error error) :
    ∃ before after : String,
      source = before ++ after ∧
        error = ⟨before.utf8ByteSize, String.ofList (Text.firstWord after.toList)⟩ ∧
          (∃ tokens, scan profile before = .ok tokens) ∧
            Layout.Stuck profile after.toList := by
  obtain ⟨layout, after, fits, split, outcome⟩ :=
    Layout.exists_fits profile source.toList
  rcases outcome with rfl | ⟨stuck, stops⟩
  · have whole : layout.text = source.toList := by
      simpa using split.symm
    rw [scan_of_fits fits whole] at failed
    cases failed
  · rw [scan, stops] at failed
    cases failed
    have scans :
        ∃ tokens, scan profile (String.ofList layout.text) = .ok tokens :=
      ⟨_, scan_of_fits fits (by simp)⟩
    refine ⟨String.ofList layout.text, String.ofList after, ?_, ?_, scans, ?_⟩
    · rw [← String.ofList_append, ← split, String.ofList_toList]
    · simp [byteLength_eq_utf8ByteSize]
    · simpa using stuck

/-- What scanning is. It succeeds exactly on texts that are a layout from end to end. There is one
token for each lexeme, with the kind and the text that the lexeme denotes and the bytes before it
as its offset, and one for the end; a text has one layout; and where scanning fails, the text
before the offset scans, and the text from there on starts with no gap and no lexeme. -/
theorem scan_agrees_with_layout (profile : Profile) (source : String) :
    (∀ tokens,
      scan profile source = .ok tokens ↔
        ∃ (layout : Layout) (read : List Token),
          layout.Fits profile ∧ layout.text = source.toList ∧
            Layout.Reads layout.lead layout.pieces read ∧
              tokens = read ++ [⟨.finish, "", source.utf8ByteSize⟩]) ∧
    (∀ first second : Layout,
      first.Fits profile → second.Fits profile →
        first.text = source.toList → second.text = source.toList → first = second) ∧
    (∀ error,
      scan profile source = .error error →
        ∃ before after : String,
          source = before ++ after ∧
            error.offset = before.utf8ByteSize ∧
            (∃ tokens, scan profile before = .ok tokens) ∧
            (∃ c rest, after.toList = c :: rest ∧ isGap c = false) ∧
            ∀ (lexeme : Lexeme) (rest : List Char),
              lexeme.Allowed profile → after.toList ≠ lexeme.spelling ++ rest) := by
  refine ⟨?_, ?_, ?_⟩
  · intro tokens
    simp only [Layout.reads_iff]
    rw [scan_eq_ok_iff]
    constructor
    · intro ⟨layout, fits, whole, same⟩
      exact ⟨layout, layout.tokens, fits, whole, rfl, same⟩
    · intro ⟨layout, read, fits, whole, computed, same⟩
      rw [computed] at same
      exact ⟨layout, fits, whole, same⟩
  · intro first second firstFits secondFits firstWhole secondWhole
    have same : first.text = second.text := firstWhole.trans secondWhole.symm
    exact Layout.eq_of_text_eq firstFits secondFits same
  · intro error failed
    obtain ⟨before, after, split, rfl, scanned, stuck⟩ :=
      exists_split_of_scan_eq_error failed
    obtain ⟨c, rest, ahead, notGap, nothing⟩ := stuck
    refine ⟨before, after, split, rfl, scanned, ⟨c, rest, ahead, notGap⟩, ?_⟩
    intro lexeme others allowed
    exact Lexeme.ne_spelling_of_next?_eq_none nothing allowed others

end Token

end CatalogFilter
