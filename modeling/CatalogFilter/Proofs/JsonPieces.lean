import CatalogFilter.Proofs.JsonNumbers

/-!
# Reading pieces

Each piece has its characters, and the reader of pieces takes exactly those off the front of a text.
What stands after a piece does not matter, except that a number has to end there.
-/

namespace CatalogFilter.Json

/-! ## Escapes -/

theorem exists_simpleEscape?_eq_some_iff {c : Char} :
    (∃ meant, simpleEscape? c = some meant) ↔ c ∈ escapedLetters := by
  constructor
  · rintro ⟨meant, found⟩
    unfold simpleEscape? at found
    split at found
    case h_9 => cases found
    all_goals decide
  · intro member
    simp only [escapedLetters, List.mem_cons, List.not_mem_nil, or_false] at member
    obtain rfl | rfl | rfl | rfl | rfl | rfl | rfl | rfl := member <;> exact ⟨_, rfl⟩

theorem escapeText_of_escape?
    {text rest : List Char} {c : Char} (found : escape? text = some (c, rest)) :
    ∃ spelled, EscapeText .reader spelled ∧ text = spelled ++ rest := by
  unfold escape? at found
  split at found
  · rename_i first second third fourth after
    simp only [Option.bind_eq_bind, Option.bind_eq_some_iff] at found
    obtain ⟨unit, named, found⟩ := found
    by_cases low : isLowSurrogate unit = true
    · simp [low] at found
    by_cases high : isHighSurrogate unit = true
    · simp only [low, high, Bool.false_eq_true, if_false, if_true] at found
      split at found
      · simp only [Option.bind_eq_some_iff] at found
        obtain ⟨partner, partnerNamed, found⟩ := found
        by_cases partnerLow : isLowSurrogate partner = true
        · simp only [partnerLow, if_true, Option.some.injEq, Prod.mk.injEq] at found
          obtain ⟨_, rfl⟩ := found
          exact ⟨_, .pair named high partnerNamed partnerLow, rfl⟩
        · simp [partnerLow] at found
      · cases found
    · simp only [low, high, Bool.false_eq_true, if_false, Option.some.injEq,
        Prod.mk.injEq] at found
      obtain ⟨_, rfl⟩ := found
      refine ⟨_, .unit named ?_, rfl⟩
      rintro (isHigh | isLow)
      · exact absurd isHigh high
      · exact absurd isLow low
  · rename_i letter after notUnit
    rw [Option.map_eq_some_iff] at found
    obtain ⟨meant, simple, same⟩ := found
    cases same
    exact ⟨[letter], .letter (exists_simpleEscape?_eq_some_iff.1 ⟨_, simple⟩), rfl⟩
  · cases found

theorem isLowSurrogate_of_isHighSurrogate {unit : Nat} (high : isHighSurrogate unit = true) :
    isLowSurrogate unit = false := by
  simp only [isHighSurrogate, isLowSurrogate, Bool.and_eq_true, Bool.and_eq_false_iff,
    decide_eq_true_eq, decide_eq_false_iff_not] at *
  omega

theorem exists_escape?_eq_some
    {spelled : List Char} (escape : EscapeText .reader spelled) :
    ∃ c, ∀ rest, escape? (spelled ++ rest) = some (c, rest) := by
  cases escape with
  | letter member =>
      obtain ⟨meant, simple⟩ := exists_simpleEscape?_eq_some_iff.2 member
      refine ⟨meant, ?_⟩
      intro rest
      rw [List.singleton_append]
      unfold escape?
      -- the letter is no `u`, so it does not matter what follows it
      split
      · rename_i unit
        cases unit
        exact absurd member (by decide)
      · rename_i same
        cases same
        rw [simple]
        rfl
      · rename_i nothing
        cases nothing
  | unit named alone =>
      rename_i unit
      have notHigh : ¬ isHighSurrogate unit = true := fun high => alone (.inl high)
      have notLow : ¬ isLowSurrogate unit = true := fun low => alone (.inr low)
      refine ⟨Char.ofNat unit, ?_⟩
      intro rest
      simp [escape?, named, notHigh, notLow]
  | pair named high partnerNamed low =>
      rename_i unit partner
      refine ⟨pairChar unit partner, ?_⟩
      intro rest
      simp [escape?, named, high, isLowSurrogate_of_isHighSurrogate high, partnerNamed, low]

/-! ## Strings -/

section Strings

variable {read rest : List Char}

theorem stringRest?_quote :
    stringRest? read ('"' :: rest) = some (String.ofList read.reverse, rest) := by
  rw [stringRest?]

theorem stringRest?_plain {c : Char} (notQuote : c ≠ '"') (notBackslash : c ≠ '\\')
    (notControl : 0x20 ≤ c.toNat) :
    stringRest? read (c :: rest) = stringRest? (c :: read) rest := by
  rw [stringRest?, if_neg (by omega)]
  · exact notQuote
  · exact notBackslash

theorem stringRest?_escape {spelled : List Char} {c : Char}
    (found : escape? (spelled ++ rest) = some (c, rest)) :
    stringRest? read ('\\' :: (spelled ++ rest)) = stringRest? (c :: read) rest := by
  rw [stringRest?]
  split
  · rename_i nothing
    rw [found] at nothing
    cases nothing
  · rename_i other after another
    rw [found] at another
    cases another
    rfl

end Strings

theorem stringBody_of_stringRest?
    {read text rest : List Char} {value : String}
    (found : stringRest? read text = some (value, rest)) :
    ∃ body, StringBody .reader body ∧ text = body ++ '"' :: rest := by
  fun_induction stringRest? read text with
  | case1 | case3 | case5 =>
      cases found
  | case2 read rest' =>
      cases found
      exact ⟨[], .empty, rfl⟩
  | case4 read after' c after escaped inductionHypothesis =>
      obtain ⟨body, spelled, rfl⟩ := inductionHypothesis found
      obtain ⟨escape, escapeText, rfl⟩ := escapeText_of_escape? escaped
      exact ⟨_, .escaped escapeText spelled, by simp⟩
  | case6 read c rest' notQuote notBackslash notControl inductionHypothesis =>
      obtain ⟨body, spelled, rfl⟩ := inductionHypothesis found
      exact ⟨c :: body, .plain notQuote notBackslash (by omega) spelled, rfl⟩

/-- The inside of a string means this text, whatever follows the string. -/
def Means (body : List Char) (value : String) : Prop :=
  ∀ rest, stringRest? [] (body ++ '"' :: rest) = some (value, rest)

theorem exists_means {body : List Char} (spelled : StringBody .reader body) :
    ∃ value, Means body value := by
  have onward : ∀ read, ∃ value, ∀ rest,
      stringRest? read (body ++ '"' :: rest) = some (value, rest) := by
    induction spelled with
    | empty =>
        intro read
        exact ⟨String.ofList read.reverse, fun rest => stringRest?_quote⟩
    | plain notQuote notBackslash notControl _ inductionHypothesis =>
        rename_i c _ _
        intro read
        obtain ⟨value, means⟩ := inductionHypothesis (c :: read)
        refine ⟨value, ?_⟩
        intro rest
        rw [List.cons_append, stringRest?_plain notQuote notBackslash notControl]
        exact means rest
    | escaped escape _ inductionHypothesis =>
        intro read
        obtain ⟨c, found⟩ := exists_escape?_eq_some escape
        obtain ⟨value, means⟩ := inductionHypothesis (c :: read)
        refine ⟨value, ?_⟩
        intro rest
        rw [List.cons_append, List.append_assoc, stringRest?_escape (found _)]
        exact means rest
  exact onward []

/-! ## Pieces -/

/-- A piece and its characters. -/
inductive Piece.Spelled : Piece → List Char → Prop
  | openBrace :
      Spelled .openBrace ['\x7b']
  | closeBrace :
      Spelled .closeBrace ['\x7d']
  | openBracket :
      Spelled .openBracket ['[']
  | closeBracket :
      Spelled .closeBracket [']']
  | comma :
      Spelled .comma [',']
  | colon :
      Spelled .colon [':']
  | null :
      Spelled (.scalar .null) ['n', 'u', 'l', 'l']
  | yes :
      Spelled (.scalar (.boolean true)) ['t', 'r', 'u', 'e']
  | no :
      Spelled (.scalar (.boolean false)) ['f', 'a', 'l', 's', 'e']
  | number {text : List Char} {value : JsonNumber} :
      JsonNumber.read? text = some value →
      Spelled (.scalar (.number value)) text
  | string {body : List Char} {value : String} :
      StringBody .reader body →
      Means body value →
      Spelled (.scalar (.string value)) ('"' :: (body ++ ['"']))

/-- No number goes on. -/
def NoNumberAhead (text : List Char) : Prop :=
  ∀ c ∈ text.head?, isNumberChar c = false

/-- The piece ends where this text begins. -/
def Piece.EndsBefore (rest : List Char) : Piece → Prop
  | .scalar (.number _) => NoNumberAhead rest
  | _ => True

/-! ## Reading a piece -/

theorem spelled_of_number?
    {text rest : List Char} {piece : Piece} (found : number? text = some (piece, rest)) :
    ∃ spelled, piece.Spelled spelled ∧ text = spelled ++ rest ∧ piece.EndsBefore rest := by
  unfold number? at found
  split at found
  · cases found
  · rw [Option.map_eq_some_iff] at found
    obtain ⟨value, taken, same⟩ := found
    cases same
    refine ⟨_, .number taken, (List.takeWhile_append_dropWhile ..).symm, ?_⟩
    exact of_mem_head?_dropWhile text

theorem piece?_number
    {text rest : List Char} {value : JsonNumber}
    (found : JsonNumber.read? text = some value) (ends : NoNumberAhead rest) :
    piece? (text ++ rest) = some (.scalar (.number value), rest) := by
  have number := numberText_of_read? found
  have chars := number.numberChars
  obtain ⟨first, others, rfl, opens⟩ := number.head
  have counted : number? (first :: others ++ rest) = some (.scalar (.number value), rest) := by
    rw [number?, takeWhile_run chars ends, dropWhile_run chars ends]
    simp [found]
  rw [← counted, List.cons_append]
  unfold piece?
  -- no mark, no quote and no word begins as a number does
  split
  case h_11 => rfl
  all_goals
    rename_i same
    rw [List.cons.injEq] at same
    obtain ⟨rfl, _⟩ := same
    exact absurd opens (by decide)

/-- The reader takes a piece off the front of a text exactly where its characters stand there. -/
theorem piece?_eq_some_iff {text rest : List Char} {piece : Piece} :
    piece? text = some (piece, rest) ↔
      ∃ spelled, piece.Spelled spelled ∧ text = spelled ++ rest ∧ piece.EndsBefore rest := by
  constructor
  · intro found
    unfold piece? at found
    split at found
    case h_7 =>
      rw [Option.map_eq_some_iff] at found
      obtain ⟨⟨value, after⟩, string, same⟩ := found
      cases same
      obtain ⟨body, spelled, rfl⟩ := stringBody_of_stringRest? string
      -- the inside means one text whatever follows, hence the one that was read
      obtain ⟨meant, means⟩ := exists_means spelled
      rw [means] at string
      cases string
      exact ⟨_, .string spelled means, by simp, trivial⟩
    case h_11 =>
      exact spelled_of_number? found
    all_goals
      cases found
      exact ⟨_, by constructor, rfl, trivial⟩
  · rintro ⟨spelled, spells, rfl, ends⟩
    cases spells with
    | number found =>
        exact piece?_number found ends
    | string _ means =>
        simp [piece?, means rest]
    | _ =>
        rfl

/-! ## The ends of a piece -/

theorem isSpace_of_isNumberChar {c : Char} (numeric : isNumberChar c = true) :
    isSpace c = false := by
  cases spaced : isSpace c with
  | false =>
      rfl
  | true =>
      simp only [isSpace, Bool.or_eq_true, decide_eq_true_eq] at spaced
      obtain ((rfl | rfl) | rfl) | rfl := spaced <;> exact absurd numeric (by decide)

/-- The first character of a piece, and its last one, are no spaces. -/
theorem Piece.Spelled.ends {piece : Piece} {text : List Char} (spells : piece.Spelled text) :
    (∃ first others, text = first :: others ∧ isSpace first = false) ∧
      ∃ others last, text = others ++ [last] ∧ isSpace last = false := by
  cases spells with
  | number found =>
      have number := numberText_of_read? found
      have chars := number.numberChars
      obtain ⟨first, others, rfl, _⟩ := number.head
      have unspaced : ∀ c ∈ first :: others, isSpace c = false :=
        fun c member => isSpace_of_isNumberChar (chars c member)
      refine ⟨⟨first, others, rfl, unspaced first (List.mem_cons_self ..)⟩, ?_⟩
      have nonempty : first :: others ≠ [] := List.cons_ne_nil first others
      refine ⟨_, _, (List.dropLast_concat_getLast nonempty).symm, ?_⟩
      exact unspaced _ (List.getLast_mem nonempty)
  | string _ _ =>
      rename_i body value _ _
      exact ⟨⟨'"', body ++ ['"'], rfl, by decide⟩, ⟨'"' :: body, '"', rfl, by decide⟩⟩
  | null =>
      exact ⟨⟨_, _, rfl, by decide⟩, ⟨['n', 'u', 'l'], 'l', rfl, by decide⟩⟩
  | yes =>
      exact ⟨⟨_, _, rfl, by decide⟩, ⟨['t', 'r', 'u'], 'e', rfl, by decide⟩⟩
  | no =>
      exact ⟨⟨_, _, rfl, by decide⟩, ⟨['f', 'a', 'l', 's'], 'e', rfl, by decide⟩⟩
  | _ =>
      exact ⟨⟨_, [], rfl, by decide⟩, ⟨[], _, rfl, by decide⟩⟩

end CatalogFilter.Json
