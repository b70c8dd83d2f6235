import CatalogFilter.Lexeme
import CatalogFilter.Text.Blank

/-!
# From a query to its tokens

A query is a sequence of lexemes with gaps between them. Scanning yields one token for each and a
closing token, or the place of the first character at which no lexeme starts.
-/

namespace CatalogFilter

/-- No lexeme starts at `offset`; `fragment` is the word that stands there. -/
structure LexicalError where
  offset : Nat
  fragment : String
deriving DecidableEq, Repr

namespace LexicalError

def message (error : LexicalError) : String :=
  "unrecognized input at offset " ++ toString error.offset ++ ": '" ++ error.fragment ++ "'"

end LexicalError

namespace Token

/-- Scans `text`, which starts at byte `offset`; `found` holds the tokens before it, the last one
first. -/
def scanFrom (profile : Profile) (offset : Nat) (text : List Char) (found : List Token) :
    Except LexicalError (List Token) :=
  match text with
  | [] => .ok (List.reverse (⟨.finish, "", offset⟩ :: found))
  | c :: rest =>
      if isGap c then
        scanFrom profile (offset + c.utf8Size) rest found
      else
        match _found : Lexeme.next? profile (c :: rest) with
        | none => .error ⟨offset, String.ofList (Text.firstWord (c :: rest))⟩
        | some (lexeme, after) =>
            scanFrom profile (offset + lexeme.size) after (lexeme.toToken offset :: found)
termination_by text.length
decreasing_by
  · simp
  · exact Lexeme.length_lt_of_next? _found

/-- The tokens of a query; the last one marks its end. -/
def scan (profile : Profile) (source : String) : Except LexicalError (List Token) :=
  scanFrom profile 0 source.toList []

end Token

end CatalogFilter
