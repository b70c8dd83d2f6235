import CatalogFilter.Text.Ranges

/-!
# White space

The Unicode property White_Space, and two readings of a text that use it: whether nothing else is
in the text, and its first word.
-/

namespace CatalogFilter.Text

/-- The code points with the property White_Space. -/
def whiteSpaceRanges : List (Nat × Nat) :=
  [(0x9, 0xD), (0x20, 0x20), (0x85, 0x85), (0xA0, 0xA0), (0x1680, 0x1680), (0x2000, 0x200A),
    (0x2028, 0x2029), (0x202F, 0x202F), (0x205F, 0x205F), (0x3000, 0x3000)]

/-- Whether `c` is white space in any script. -/
def isWhiteSpace (c : Char) : Bool :=
  inRanges whiteSpaceRanges c.toNat

/-- Whether a text holds nothing but white space. -/
def isBlank (text : List Char) : Bool :=
  text.all isWhiteSpace

/-- The first run of characters that are not white space, or all of a text that has none. -/
def firstWord (text : List Char) : List Char :=
  match (text.dropWhile isWhiteSpace).takeWhile (!isWhiteSpace ·) with
  | [] => text
  | word => word

theorem isBlank_eq_false_iff
    {text : List Char} :
    isBlank text = false ↔ ∃ c ∈ text, isWhiteSpace c = false := by
  simp [isBlank]

end CatalogFilter.Text
