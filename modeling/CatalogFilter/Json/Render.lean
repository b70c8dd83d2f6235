import CatalogFilter.Decimal.Notation
import CatalogFilter.Json
import CatalogFilter.Text.Quoted

/-!
# JSON values as compact text

No space stands between pieces. A string escapes quotes, backslashes and control characters only.
A double is written in full when its leading digit stands between the fifth place after the point
and the sixteenth before it.
-/

namespace CatalogFilter

/-- Doubles keep a digit after the point, and a tie between two decimals goes to the even one. -/
def JsonNumber.layout : Decimal.Layout :=
  { leastPlain := some (-5)
    greatestPlain := some 15
    keepsPoint := true
    tie := .toEven }

def JsonNumber.render : JsonNumber → String
  | .integer value => toString value
  | .real value => layout.text value

namespace Json

/-- How one character stands inside a string. -/
def escapeChar (c : Char) : List Char :=
  match c with
  | '"' => ['\\', '"']
  | '\\' => ['\\', '\\']
  | '\x08' => ['\\', 'b']
  | '\x0c' => ['\\', 'f']
  | '\n' => ['\\', 'n']
  | '\r' => ['\\', 'r']
  | '\t' => ['\\', 't']
  | c =>
      if c.toNat < 0x20 then
        let digits := Nat.toDigits 16 c.toNat
        '\\' :: 'u' :: (List.replicate (4 - digits.length) '0' ++ digits)
      else
        [c]

def renderString (text : String) : String :=
  "\"" ++ String.ofList (text.toList.flatMap escapeChar) ++ "\""

mutual

def render : Json → String
  | .null => "null"
  | .boolean value => if value then "true" else "false"
  | .number value => value.render
  | .string text => renderString text
  | .array items => "[" ++ ",".intercalate (renderItems items) ++ "]"
  | .object fields => "\x7b" ++ ",".intercalate (renderFields fields) ++ "\x7d"

def renderItems : List Json → List String
  | [] => []
  | item :: rest => item.render :: renderItems rest

def renderFields : List (String × Json) → List String
  | [] => []
  | (name, value) :: rest => (renderString name ++ ":" ++ value.render) :: renderFields rest

end

/-- A value as a text of its own: a string is itself, anything else is written as JSON. -/
def text : Json → String
  | .string text => text
  | other => other.render

end Json

end CatalogFilter
