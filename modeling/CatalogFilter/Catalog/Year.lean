import CatalogFilter.Text.Integer

/-!
# Years in a catalog

A year is written with four digits, and a question mark after them says that it is a guess. Any
other text is no year and counts as 0. Whether there are four digits is decided on the bytes of the
text, and their value is read as any whole number is.
-/

namespace CatalogFilter.Catalog

/-- A text without one question mark at its end. -/
def dropGuess (text : List Char) : List Char :=
  if text.getLast? = some '?' then text.dropLast else text

/-- Whether a byte is that of an ASCII digit. -/
def isDigitByte (byte : UInt8) : Bool :=
  '0'.toUInt8 ≤ byte && byte ≤ '9'.toUInt8

/-- The year that a text is, or 0. -/
def yearOf (text : String) : Int :=
  let digits := String.ofList (dropGuess text.toList)
  if digits.utf8ByteSize = 4 ∧ digits.toUTF8.toList.all isDigitByte then
    (Text.readInt64? digits).getD 0
  else
    0

end CatalogFilter.Catalog
