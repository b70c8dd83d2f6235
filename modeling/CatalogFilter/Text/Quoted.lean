import CatalogFilter.Text.Printable

/-!
# Quoted text in messages

A message quotes a name or a query between double quotes. A quote and a backslash inside get a
backslash, five controls have a letter, and any other character that does not show by itself is
written as its code point in braces.
-/

namespace CatalogFilter.Text

/-- The code point in lowercase hexadecimal without padding. -/
def hexadecimal (code : Nat) : String :=
  String.ofList (Nat.toDigits 16 code)

/-- How one character stands inside a quoted text. -/
def quoteChar (c : Char) : String :=
  match c with
  | '\x00' => "\\0"
  | '\t' => "\\t"
  | '\n' => "\\n"
  | '\r' => "\\r"
  | '"' => "\\\""
  | '\\' => "\\\\"
  | c =>
      if isPlain c then
        String.singleton c
      else
        "\\u\x7b" ++ hexadecimal c.toNat ++ "\x7d"

/-- The text between double quotes. -/
def quote (text : String) : String :=
  "\"" ++ String.join (text.toList.map quoteChar) ++ "\""

end CatalogFilter.Text
