import CatalogFilter.Profile
import CatalogFilter.Token
import CatalogFilter.Text.Alphanumeric

/-!
# Lexemes

The pieces that a query is cut into: a symbol, a bare word or a quoted text. `Lexeme.next?` takes
the longest piece from the front of a text. Its main statement says that the piece is written
exactly so at the front of that text.
-/

namespace CatalogFilter

/-- The characters that may stand between two lexemes. -/
def isGap (c : Char) : Bool :=
  c = ' ' || c = '\t' || c = '\r' || c = '\n'

/-- The characters of a literal that needs no quotes. -/
def isBare (c : Char) : Bool :=
  Text.isAlphanumeric c || c = '.' || c = '_' || c = '-' || c = '&'

/-- The characters of a literal between quotes. -/
def isQuotable (c : Char) : Bool :=
  isBare c || c = ' ' || c = '/'

/-- The bytes that a run of characters takes in UTF-8. -/
def byteLength (text : List Char) : Nat :=
  text.foldl (fun total c => total + c.utf8Size) 0

inductive Lexeme where
  /-- A parenthesis or a comparison. -/
  | symbol (op : Operator)
  /-- A whole run of bare characters. -/
  | word (text : List Char)
  /-- The characters between two quotes. -/
  | quoted (text : List Char)
deriving DecidableEq, Repr

namespace Lexeme

/-- How a lexeme is written. -/
def spelling : Lexeme → List Char
  | .symbol op => op.symbol.toList
  | .word text => text
  | .quoted text => '"' :: text ++ ['"']

/-- The bytes that a lexeme takes. -/
def size (lexeme : Lexeme) : Nat :=
  byteLength lexeme.spelling

/-- The token of a lexeme that starts at `offset`. A reserved word is an operator only where it is
a whole bare word. -/
def toToken (offset : Nat) : Lexeme → Token
  | .symbol op => ⟨.operator op, op.symbol, offset⟩
  | .word text =>
      match Operator.ofWord? (String.ofList text) with
      | some op => ⟨.operator op, op.symbol, offset⟩
      | none => ⟨.literal, String.ofList text, offset⟩
  | .quoted text => ⟨.literal, String.ofList text, offset⟩

/-- A comparison at the front; the two-character ones come before their first characters. -/
def comparison? : List Char → Option (Lexeme × List Char)
  | '=' :: '=' :: rest => some (.symbol .eq, rest)
  | '!' :: '=' :: rest => some (.symbol .ne, rest)
  | '>' :: '=' :: rest => some (.symbol .ge, rest)
  | '<' :: '=' :: rest => some (.symbol .le, rest)
  | '>' :: rest => some (.symbol .gt, rest)
  | '<' :: rest => some (.symbol .lt, rest)
  | _ => none

def parenthesis? : List Char → Option (Lexeme × List Char)
  | '(' :: rest => some (.symbol .openParen, rest)
  | ')' :: rest => some (.symbol .closeParen, rest)
  | _ => none

/-- A quote, at least one quotable character and the next quote. -/
def quoted? : List Char → Option (Lexeme × List Char)
  | '"' :: rest =>
      match rest.takeWhile isQuotable, rest.dropWhile isQuotable with
      | c :: inside, '"' :: after => some (.quoted (c :: inside), after)
      | _, _ => none
  | _ => none

/-- The longest run of bare characters, if there is one. -/
def word? (text : List Char) : Option (Lexeme × List Char) :=
  match text.takeWhile isBare with
  | [] => none
  | c :: others => some (.word (c :: others), text.dropWhile isBare)

/-- The lexeme at the front of a text and what follows it. -/
def next? (profile : Profile) (text : List Char) : Option (Lexeme × List Char) :=
  (if profile.hasComparisons then comparison? text else none)
    <|> parenthesis? text
    <|> quoted? text
    <|> word? text

/-! ## A lexeme stands at the front as it is spelled -/

theorem spelling_of_comparison?
    {text rest : List Char} {lexeme : Lexeme}
    (found : comparison? text = some (lexeme, rest)) :
    text = lexeme.spelling ++ rest ∧ lexeme.spelling ≠ [] := by
  unfold comparison? at found
  split at found <;> simp_all <;> obtain ⟨rfl, rfl⟩ := found <;> simp [spelling, Operator.symbol]

theorem spelling_of_parenthesis?
    {text rest : List Char} {lexeme : Lexeme}
    (found : parenthesis? text = some (lexeme, rest)) :
    text = lexeme.spelling ++ rest ∧ lexeme.spelling ≠ [] := by
  unfold parenthesis? at found
  split at found <;> simp_all <;> obtain ⟨rfl, rfl⟩ := found <;> simp [spelling, Operator.symbol]

theorem spelling_of_quoted?
    {text rest : List Char} {lexeme : Lexeme}
    (found : quoted? text = some (lexeme, rest)) :
    text = lexeme.spelling ++ rest ∧ lexeme.spelling ≠ [] := by
  unfold quoted? at found
  split at found
  · rename_i tail
    split at found
    · rename_i c inside after taken dropped
      simp only [Option.some.injEq, Prod.mk.injEq] at found
      obtain ⟨rfl, rfl⟩ := found
      have whole := List.takeWhile_append_dropWhile (p := isQuotable) (l := tail)
      rw [taken, dropped] at whole
      simp [spelling, ← whole]
    · simp at found
  · simp at found

theorem spelling_of_word?
    {text rest : List Char} {lexeme : Lexeme}
    (found : word? text = some (lexeme, rest)) :
    text = lexeme.spelling ++ rest ∧ lexeme.spelling ≠ [] := by
  unfold word? at found
  split at found
  · simp at found
  · rename_i c others taken
    simp only [Option.some.injEq, Prod.mk.injEq] at found
    obtain ⟨rfl, rfl⟩ := found
    have whole := List.takeWhile_append_dropWhile (p := isBare) (l := text)
    rw [taken] at whole
    simp [spelling, whole]

theorem spelling_of_next?
    {profile : Profile} {text rest : List Char} {lexeme : Lexeme}
    (found : next? profile text = some (lexeme, rest)) :
    text = lexeme.spelling ++ rest ∧ lexeme.spelling ≠ [] := by
  unfold next? at found
  simp only [Option.orElse_eq_orElse, Option.orElse_eq_or, Option.or_eq_some_iff] at found
  rcases found with comparison | ⟨_, parenthesis | ⟨_, quoted | ⟨_, word⟩⟩⟩
  · split at comparison
    · exact spelling_of_comparison? comparison
    · simp at comparison
  · exact spelling_of_parenthesis? parenthesis
  · exact spelling_of_quoted? quoted
  · exact spelling_of_word? word

theorem length_lt_of_next?
    {profile : Profile} {text rest : List Char} {lexeme : Lexeme}
    (found : next? profile text = some (lexeme, rest)) :
    rest.length < text.length := by
  obtain ⟨whole, nonempty⟩ := spelling_of_next? found
  have positive := List.length_pos_iff.2 nonempty
  rw [whole, List.length_append]
  omega

end Lexeme

end CatalogFilter
