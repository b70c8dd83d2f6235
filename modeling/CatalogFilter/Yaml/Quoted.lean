import CatalogFilter.Yaml.Cursor
import CatalogFilter.Yaml.Scalar

/-!
# Quoted scalars in YAML

Between single quotes a quote is written twice and all else stands for itself. Between double quotes
a backslash starts an escape. The end of a line inside the quotes is a space, and white space around
it is dropped.
-/

namespace CatalogFilter.Yaml

/-! ## Escapes -/

/-- The characters that a backslash and one letter stand for. -/
def letterEscape? (c : Char) : Option Char :=
  match c with
  | '0' => some '\x00'
  | 'a' => some '\x07'
  | 'b' => some '\x08'
  | 't' => some '\t'
  | '\t' => some '\t'
  | 'n' => some '\n'
  | 'v' => some '\x0b'
  | 'f' => some '\x0c'
  | 'r' => some '\r'
  | 'e' => some '\x1b'
  | ' ' => some ' '
  | '"' => some '"'
  | '/' => some '/'
  | '\\' => some '\\'
  | 'N' => some '\u0085'
  | '_' => some '\u00a0'
  | 'L' => some '\u2028'
  | 'P' => some '\u2029'
  | _ => none

/-- How many hexadecimal digits follow a letter. -/
def hexLength? (c : Char) : Option Nat :=
  match c with
  | 'x' => some 2
  | 'u' => some 4
  | 'U' => some 8
  | _ => none

/-- The character that an escape stands for and the length of the escape, its backslash included. -/
def escape? : List Char → Option (Char × Nat)
  | '\\' :: c :: rest =>
      match hexLength? c with
      | some length => do
          let digits := rest.take length
          let code ← readBase? 16 digits
          if digits.length = length ∧ code.isValidChar then
            some (Char.ofNat code, length + 2)
          else
            none
      | none => (letterEscape? c).map (·, 2)
  | _ => none

/-! ## Runs and gaps -/

/-- A run of a quoted scalar: its characters and those before, last first, and whether it ends with
an end of line that counts as nothing. -/
structure QuotedRun where
  taken : List Char
  escaped : Bool
  cursor : Cursor

/-- The characters up to the next white space or the closing quote, for at most `count` steps. -/
def quotedRun? (quote : Char) : Nat → List Char → Cursor → Option QuotedRun
  | 0, taken, cursor => some ⟨taken, false, cursor⟩
  | count + 1, taken, cursor =>
      match cursor.rest with
      | [] => some ⟨taken, false, cursor⟩
      | c :: rest =>
          if isBlank c || isBreak c then
            some ⟨taken, false, cursor⟩
          else if c = quote then
            if c = '\x27' ∧ rest.head? = some '\x27' then
              quotedRun? quote count (c :: taken) (cursor.skipMarks 2)
            else
              some ⟨taken, false, cursor⟩
          else if c = '\\' ∧ quote = '"' then
            if rest ≠ [] ∧ endsLine rest then
              some ⟨taken, true, (cursor.skipMarks 1).skipBreak⟩
            else
              match escape? (c :: rest) with
              | none => none
              | some (escaped, length) =>
                  quotedRun? quote count (escaped :: taken) (cursor.skipMarks length)
          else
            quotedRun? quote count (c :: taken) (cursor.skipMarks 1)

/-- The rest of a quoted scalar after the characters in `taken`, last first, up to and with the
closing quote. No line of it may start left of the column `margin`. -/
def quotedRest? (quote : Char) (margin : Int) (bound : Nat) :
    Nat → List Char → Cursor → Option (List Char × Cursor)
  | 0, _, _ => none
  | count + 1, taken, cursor =>
      if cursor.atDocumentMark || cursor.rest = [] || (cursor.column : Int) < margin then
        none
      else
        match quotedRun? quote bound taken cursor with
        | none => none
        | some ⟨taken, escaped, cursor⟩ =>
            if cursor.rest.head? = some quote then
              some (taken, cursor.skipMarks 1)
            else
              match Gap.extend? margin (fun _ => none) bound ⟨[], 0, escaped⟩ cursor with
              | none => none
              | some (gap, cursor) =>
                  quotedRest? quote margin bound count (gap.text.reverse ++ taken) cursor

/-- The quoted scalar ahead, whose opening quote is `quote`. -/
def quoted? (quote : Char) (margin : Int) (bound : Nat) (cursor : Cursor) :
    Option (String × Cursor) :=
  (quotedRest? quote margin bound bound [] (cursor.skipMarks 1)).map fun (taken, after) =>
    (String.ofList taken.reverse, after)

end CatalogFilter.Yaml
