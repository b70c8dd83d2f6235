import CatalogFilter.Expr.Render
import CatalogFilter.Lexeme
import CatalogFilter.Proofs.Runs

/-!
# Which lexeme stands at the front of a text

A profile allows parentheses, words, quoted texts and, if it has comparisons, their symbols. A word
ends where its run of bare characters does, and a one-character comparison ends only where no `=`
follows. The piece that is taken from the front of a text is the one lexeme that stands there under
these rules; if none is taken, no allowed lexeme is spelled at the front at all. What a lexeme
denotes is the kind and the text of its token.
-/

namespace CatalogFilter

/-! ## Lengths in bytes -/

@[simp]
theorem byteLength_nil : byteLength [] = 0 :=
  rfl

theorem byteLength_eq_utf8ByteSize (text : List Char) :
    byteLength text = (String.ofList text).utf8ByteSize := by
  have accumulated (text : List Char) :
      ∀ total,
        text.foldl (fun total c => total + c.utf8Size) total =
          total + (String.ofList text).utf8ByteSize := by
    induction text with
    | nil =>
        simp
    | cons c rest inductionHypothesis =>
        intro total
        rw [List.foldl_cons, inductionHypothesis, String.ofList_cons,
          String.utf8ByteSize_append, String.utf8ByteSize_singleton, Nat.add_assoc]
  rw [byteLength, accumulated, Nat.zero_add]

theorem byteLength_append (left right : List Char) :
    byteLength (left ++ right) = byteLength left + byteLength right := by
  simp only [byteLength_eq_utf8ByteSize, String.ofList_append,
    String.utf8ByteSize_append]

theorem byteLength_cons (c : Char) (text : List Char) :
    byteLength (c :: text) = c.utf8Size + byteLength text := by
  simp only [byteLength_eq_utf8ByteSize, String.ofList_cons,
    String.utf8ByteSize_append, String.utf8ByteSize_singleton]

theorem byteLength_toList (source : String) :
    byteLength source.toList = source.utf8ByteSize := by
  rw [byteLength_eq_utf8ByteSize, String.ofList_toList]

namespace Lexeme

/-- The lexemes that a profile knows. -/
def Allowed (profile : Profile) : Lexeme → Prop
  | .symbol op =>
      op = .openParen ∨ op = .closeParen ∨
        op.isComparison = true ∧ profile.hasComparisons = true
  | .word text => text ≠ [] ∧ ∀ c ∈ text, isBare c = true
  | .quoted text => text ≠ [] ∧ ∀ c ∈ text, isQuotable c = true

/-- A lexeme before which the text goes on with `rest` ends here. -/
def EndsBefore (rest : List Char) : Lexeme → Prop
  | .symbol op => op = .gt ∨ op = .lt → rest.head? ≠ some '='
  | .word _ => ∀ c ∈ rest.head?, isBare c = false
  | .quoted _ => True

theorem EndsBefore.of_append
    {lexeme : Lexeme} {text rest : List Char}
    (ends : lexeme.EndsBefore (text ++ rest)) :
    lexeme.EndsBefore text := by
  cases text with
  | nil =>
      cases lexeme <;> simp [EndsBefore]
  | cons c others =>
      cases lexeme with
      | symbol op =>
          simpa [EndsBefore] using ends
      | word run =>
          simpa [EndsBefore] using ends
      | quoted inside =>
          trivial

/-! ## The readers of one kind -/

theorem comparison?_of_isComparison
    {op : Operator} (comparison : op.isComparison = true)
    {rest : List Char} (ends : (symbol op).EndsBefore rest) :
    comparison? (op.symbol.toList ++ rest) = some (.symbol op, rest) := by
  cases op with
  | eq | ne | ge | le =>
      rfl
  | gt | lt =>
      cases rest with
      | nil =>
          rfl
      | cons c others =>
          have different : c ≠ '=' := by
            simpa [EndsBefore] using ends
          simp [comparison?, Operator.symbol, different]
  | _ =>
      cases comparison

theorem comparison?_eq_none
    {c : Char} (different : c ∉ ['=', '!', '>', '<']) (rest : List Char) :
    comparison? (c :: rest) = none := by
  unfold comparison?
  split <;> simp_all

theorem parenthesis?_eq_none
    {c : Char} (different : c ∉ ['(', ')']) (rest : List Char) :
    parenthesis? (c :: rest) = none := by
  unfold parenthesis?
  split <;> simp_all

theorem quoted?_eq_none
    {c : Char} (different : c ≠ '"') (rest : List Char) :
    quoted? (c :: rest) = none := by
  unfold quoted?
  split <;> simp_all

theorem quoted?_of_isQuotable
    {inside : List Char} (nonempty : inside ≠ [])
    (quotable : ∀ c ∈ inside, isQuotable c = true)
    (rest : List Char) :
    quoted? ('"' :: (inside ++ '"' :: rest)) = some (.quoted inside, rest) := by
  have ends : ∀ c ∈ ('"' :: rest).head?, isQuotable c = false := by
    rintro c ⟨⟩
    decide
  obtain ⟨c, others, rfl⟩ := List.exists_cons_of_ne_nil nonempty
  rw [quoted?, takeWhile_run quotable ends, dropWhile_run quotable ends]
  rfl

theorem word?_of_isBare
    {run rest : List Char} (nonempty : run ≠ []) (bare : ∀ c ∈ run, isBare c = true)
    (ends : ∀ c ∈ rest.head?, isBare c = false) :
    word? (run ++ rest) = some (.word run, rest) := by
  obtain ⟨c, others, rfl⟩ := List.exists_cons_of_ne_nil nonempty
  rw [word?, takeWhile_run bare ends, dropWhile_run bare ends]

/-- The characters that start a lexeme other than a word. -/
def starters : List Char :=
  ['=', '!', '>', '<', '(', ')', '"']

theorem not_mem_starters {c : Char} (bare : isBare c = true) : c ∉ starters := by
  intro member
  have noneBare : starters.all (fun c => !isBare c) = true := by decide
  have notBare := List.all_eq_true.1 noneBare c member
  simp [bare] at notBare

/-! ## The reader of all kinds -/

/-- An allowed lexeme that ends where it should is the one that is taken. -/
theorem next?_of_allowed
    {profile : Profile} {lexeme : Lexeme} {rest : List Char}
    (allowed : lexeme.Allowed profile) (ends : lexeme.EndsBefore rest) :
    next? profile (lexeme.spelling ++ rest) = some (lexeme, rest) := by
  cases lexeme with
  | symbol op =>
      rcases allowed with rfl | rfl | ⟨comparison, known⟩
      · simp [next?, spelling, Operator.symbol, comparison?_eq_none, parenthesis?]
      · simp [next?, spelling, Operator.symbol, comparison?_eq_none, parenthesis?]
      · have taken := comparison?_of_isComparison comparison ends
        simp [next?, spelling, known, taken]
  | word run =>
      obtain ⟨nonempty, bare⟩ := allowed
      have taken := word?_of_isBare nonempty bare ends
      obtain ⟨c, others, rfl⟩ := List.exists_cons_of_ne_nil nonempty
      -- No reader before the one of words takes a bare character.
      have other : c ∉ starters := by
        apply not_mem_starters
        exact bare c (List.mem_cons_self ..)
      simp only [starters, List.mem_cons, List.not_mem_nil, or_false, not_or] at other
      rw [next?, spelling, taken]
      simp [other, comparison?_eq_none, parenthesis?_eq_none, quoted?_eq_none]
  | quoted inside =>
      have taken := quoted?_of_isQuotable allowed.1 allowed.2 rest
      simp [next?, spelling, taken, comparison?_eq_none, parenthesis?_eq_none]

theorem exists_comparison_of_comparison?
    {text rest : List Char} {lexeme : Lexeme}
    (found : comparison? text = some (lexeme, rest)) :
    ∃ op,
      lexeme = .symbol op ∧ op.isComparison = true ∧ lexeme.EndsBefore rest := by
  unfold comparison? at found
  split at found
  case h_5 | h_6 =>
    -- The two-character symbol has been tried before.
    rename_i longer
    cases found
    refine ⟨_, rfl, rfl, ?_⟩
    intro _ ahead
    obtain ⟨others, rfl⟩ := List.head?_eq_some_iff.1 ahead
    exact longer others rfl
  case h_7 =>
    cases found
  all_goals
    cases found
    exact ⟨_, rfl, rfl, by simp [EndsBefore]⟩

theorem allowed_of_parenthesis?
    {text rest : List Char} {lexeme : Lexeme} (profile : Profile)
    (found : parenthesis? text = some (lexeme, rest)) :
    lexeme.Allowed profile ∧ lexeme.EndsBefore rest := by
  unfold parenthesis? at found
  split at found <;> cases found <;> simp [Allowed, EndsBefore]

theorem allowed_of_quoted?
    {text rest : List Char} {lexeme : Lexeme} (profile : Profile)
    (found : quoted? text = some (lexeme, rest)) :
    lexeme.Allowed profile ∧ lexeme.EndsBefore rest := by
  unfold quoted? at found
  split at found
  · rename_i tail
    split at found
    · rename_i c inside after taken dropped
      cases found
      refine ⟨⟨by simp, ?_⟩, trivial⟩
      rw [← taken]
      exact of_mem_takeWhile tail
    · cases found
  · cases found

theorem allowed_of_word?
    {text rest : List Char} {lexeme : Lexeme} (profile : Profile)
    (found : word? text = some (lexeme, rest)) :
    lexeme.Allowed profile ∧ lexeme.EndsBefore rest := by
  unfold word? at found
  split at found
  · cases found
  · rename_i c others taken
    cases found
    refine ⟨⟨by simp, ?_⟩, of_mem_head?_dropWhile text⟩
    rw [← taken]
    exact of_mem_takeWhile text

theorem allowed_of_next?
    {profile : Profile} {text rest : List Char} {lexeme : Lexeme}
    (found : next? profile text = some (lexeme, rest)) :
    lexeme.Allowed profile ∧ lexeme.EndsBefore rest := by
  unfold next? at found
  simp only [Option.orElse_eq_orElse, Option.orElse_eq_or,
    Option.or_eq_some_iff] at found
  rcases found with comparison | ⟨_, parenthesis | ⟨_, quoted | ⟨_, word⟩⟩⟩
  · by_cases known : profile.hasComparisons = true
    · rw [if_pos known] at comparison
      obtain ⟨op, rfl, isComparison, ends⟩ :=
        exists_comparison_of_comparison? comparison
      exact ⟨.inr (.inr ⟨isComparison, known⟩), ends⟩
    · rw [if_neg known] at comparison
      cases comparison
  · exact allowed_of_parenthesis? profile parenthesis
  · exact allowed_of_quoted? profile quoted
  · exact allowed_of_word? profile word

/-- What is taken is the one allowed lexeme that stands at the front and ends there. -/
theorem next?_eq_some_iff
    {profile : Profile} {text rest : List Char} {lexeme : Lexeme} :
    next? profile text = some (lexeme, rest) ↔
      text = lexeme.spelling ++ rest ∧
        lexeme.Allowed profile ∧ lexeme.EndsBefore rest := by
  constructor
  · intro found
    have spelled := (spelling_of_next? found).1
    exact ⟨spelled, allowed_of_next? found⟩
  · rintro ⟨rfl, allowed, ends⟩
    exact next?_of_allowed allowed ends

example : next? .numericYear "<=1990".toList = some (.symbol .le, "1990".toList) := by
  decide

/-- Where an allowed lexeme is spelled, one ends, though it may be a longer one. -/
theorem exists_endsBefore
    {profile : Profile} {lexeme : Lexeme}
    (allowed : lexeme.Allowed profile) (rest : List Char) :
    ∃ (longer : Lexeme) (others : List Char),
      longer.Allowed profile ∧
        longer.EndsBefore others ∧
        lexeme.spelling ++ rest = longer.spelling ++ others := by
  by_cases ends : lexeme.EndsBefore rest
  · exact ⟨lexeme, rest, allowed, ends, rfl⟩
  · cases lexeme with
    | symbol op =>
        -- A `<` or `>` that is the first half of `<=` or `>=`.
        simp only [EndsBefore, Classical.not_imp, ne_eq, Classical.not_not] at ends
        obtain ⟨oneCharacter, ahead⟩ := ends
        obtain ⟨others, rfl⟩ := List.head?_eq_some_iff.1 ahead
        rcases oneCharacter with rfl | rfl
        · have known : profile.hasComparisons = true := by
            simpa [Allowed, Operator.isComparison] using allowed
          refine ⟨.symbol .ge, others, .inr (.inr ⟨rfl, known⟩), ?_, rfl⟩
          simp [EndsBefore]
        · have known : profile.hasComparisons = true := by
            simpa [Allowed, Operator.isComparison] using allowed
          refine ⟨.symbol .le, others, .inr (.inr ⟨rfl, known⟩), ?_, rfl⟩
          simp [EndsBefore]
    | word run =>
        -- The run goes on to its end.
        obtain ⟨nonempty, bare⟩ := allowed
        have wholeNonempty : run ++ rest.takeWhile isBare ≠ [] := by
          simp [nonempty]
        have wholeBare : ∀ c ∈ run ++ rest.takeWhile isBare, isBare c = true := by
          intro c member
          rcases List.mem_append.1 member with before | behind
          · exact bare c before
          · exact of_mem_takeWhile rest c behind
        refine ⟨.word (run ++ rest.takeWhile isBare), rest.dropWhile isBare,
          ⟨wholeNonempty, wholeBare⟩, of_mem_head?_dropWhile rest, ?_⟩
        simp [spelling]
    | quoted inside =>
        exact absurd trivial ends

/-- Where nothing is taken, no allowed lexeme is spelled. -/
theorem ne_spelling_of_next?_eq_none
    {profile : Profile} {text : List Char}
    (nothing : next? profile text = none)
    {lexeme : Lexeme} (allowed : lexeme.Allowed profile) (rest : List Char) :
    text ≠ lexeme.spelling ++ rest := by
  rintro rfl
  obtain ⟨longer, others, longerAllowed, ends, same⟩ :=
    exists_endsBefore allowed rest
  rw [same, next?_of_allowed longerAllowed ends] at nothing
  cases nothing

/-! ## What a lexeme denotes -/

/-- The words that force quotes are the words of the operators. -/
theorem ofWord?_eq_none_iff {word : String} :
    Operator.ofWord? word = none ↔ word ∉ reservedWords := by
  constructor
  · intro noOperator reserved
    have spelled : reservedWords.all (fun word => (Operator.ofWord? word).isSome) = true := by
      decide
    have found := List.all_eq_true.1 spelled word reserved
    rw [noOperator] at found
    cases found
  · intro unreserved
    simp only [reservedWords, List.mem_cons, List.not_mem_nil, or_false,
      not_or] at unreserved
    simp [Operator.ofWord?, Operator.symbol, unreserved, eq_comm]

theorem ofWord?_eq_some_iff {word : String} {op : Operator} :
    Operator.ofWord? word = some op ↔ op.symbol = word ∧ word ∈ reservedWords := by
  constructor
  · intro found
    have spelled : op.symbol = word := by
      simpa using List.find?_some found
    by_cases reserved : word ∈ reservedWords
    · exact ⟨spelled, reserved⟩
    · rw [ofWord?_eq_none_iff.2 reserved] at found
      cases found
  · intro ⟨spelled, reserved⟩
    subst spelled
    cases op <;> first | rfl | exact absurd reserved (by decide)

/-- The kind of token that a lexeme is, and its text. A reserved word is its operator only where
it is a whole bare word; between quotes it is a literal like any other text. -/
inductive Denotes : Lexeme → TokenKind → String → Prop
  | symbol (op : Operator) : Denotes (.symbol op) (.operator op) op.symbol
  | reserved {op : Operator} :
      op.symbol ∈ reservedWords →
        Denotes (.word op.symbol.toList) (.operator op) op.symbol
  | bare {text : String} :
      text ∉ reservedWords → Denotes (.word text.toList) .literal text
  | quoted (text : String) : Denotes (.quoted text.toList) .literal text

theorem denotes_toToken (lexeme : Lexeme) (offset : Nat) :
    lexeme.Denotes (lexeme.toToken offset).kind (lexeme.toToken offset).text := by
  cases lexeme with
  | symbol op =>
      exact .symbol op
  | word run =>
      cases found : Operator.ofWord? (String.ofList run) with
      | none =>
          have denotes := Denotes.bare (ofWord?_eq_none_iff.1 found)
          rw [String.toList_ofList] at denotes
          simpa [toToken, found] using denotes
      | some op =>
          obtain ⟨spelled, reserved⟩ := ofWord?_eq_some_iff.1 found
          rw [← spelled] at reserved
          have denotes := Denotes.reserved reserved
          rw [spelled, String.toList_ofList] at denotes
          simpa [toToken, found, spelled] using denotes
  | quoted inside =>
      have denotes := Denotes.quoted (String.ofList inside)
      rw [String.toList_ofList] at denotes
      exact denotes

theorem offset_toToken (lexeme : Lexeme) (offset : Nat) :
    (lexeme.toToken offset).offset = offset := by
  cases lexeme with
  | symbol op | quoted inside =>
      rfl
  | word run =>
      simp only [toToken]
      split <;> rfl

/-- The token of a lexeme is the one that it denotes. -/
theorem denotes_iff
    {lexeme : Lexeme} {kind : TokenKind} {text : String} (offset : Nat) :
    lexeme.Denotes kind text ↔ lexeme.toToken offset = ⟨kind, text, offset⟩ := by
  constructor
  · intro denotes
    cases denotes with
    | symbol op =>
        rfl
    | reserved isReserved =>
        simp [toToken, ofWord?_eq_some_iff.2 ⟨rfl, isReserved⟩]
    | bare unreserved =>
        simp [toToken, ofWord?_eq_none_iff.2 unreserved]
    | quoted text =>
        simp [toToken]
  · intro same
    have denotes := lexeme.denotes_toToken offset
    rw [same] at denotes
    exact denotes

/-! ## Lexemes and gaps -/

theorem isGap_eq_false_of_isBare {c : Char} (bare : isBare c = true) :
    isGap c = false := by
  by_cases gap : c ∈ [' ', '\t', '\r', '\n']
  · have noneBare :
        [' ', '\t', '\r', '\n'].all (fun c => !isBare c) = true := by
      decide
    have notBare := List.all_eq_true.1 noneBare c gap
    simp [bare] at notBare
  · simpa [isGap, and_assoc] using gap

theorem exists_cons_spelling
    {profile : Profile} {lexeme : Lexeme} (allowed : lexeme.Allowed profile) :
    ∃ c others, lexeme.spelling = c :: others ∧ isGap c = false := by
  cases lexeme with
  | symbol op =>
      cases op <;> exact ⟨_, _, rfl, by decide⟩
  | word run =>
      obtain ⟨c, others, rfl⟩ := List.exists_cons_of_ne_nil allowed.1
      have bare : isBare c = true := by
        apply allowed.2
        exact List.mem_cons_self ..
      exact ⟨c, others, rfl, isGap_eq_false_of_isBare bare⟩
  | quoted inside =>
      exact ⟨'"', inside ++ ['"'], rfl, by decide⟩

end Lexeme

end CatalogFilter
