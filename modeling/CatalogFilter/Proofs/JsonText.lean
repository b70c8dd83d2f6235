import CatalogFilter.Json.Document

/-!
# The grammar of JSON texts

The grammar is over characters, and it says nothing about how a text is read or what it means. It
leaves two questions open that a reader may settle for itself, and they are the fields of `Limits`:
whether half of a surrogate pair may be escaped without the other half, and which numbers are taken.
A derivation also counts how deeply containers nest.
-/

namespace CatalogFilter.Json

/-! ## Numbers -/

/-- One digit or more. -/
def Digits (text : List Char) : Prop :=
  text ≠ [] ∧ ∀ c ∈ text, c.isDigit = true

inductive WholeText : List Char → Prop
  | zero :
      WholeText ['0']
  | positive {first : Char} {others : List Char} :
      first.isDigit = true →
      first ≠ '0' →
      (∀ c ∈ others, c.isDigit = true) →
      WholeText (first :: others)

inductive FractionText : List Char → Prop
  | none :
      FractionText []
  | digits {digits : List Char} :
      Digits digits →
      FractionText ('.' :: digits)

inductive ExponentText : List Char → Prop
  | none :
      ExponentText []
  | unsigned {mark : Char} {digits : List Char} :
      mark = 'e' ∨ mark = 'E' →
      Digits digits →
      ExponentText (mark :: digits)
  | signed {mark sign : Char} {digits : List Char} :
      mark = 'e' ∨ mark = 'E' →
      sign = '+' ∨ sign = '-' →
      Digits digits →
      ExponentText (mark :: sign :: digits)

inductive MagnitudeText : List Char → Prop
  | parts {whole fraction exponent : List Char} :
      WholeText whole →
      FractionText fraction →
      ExponentText exponent →
      MagnitudeText (whole ++ (fraction ++ exponent))

inductive NumberText : List Char → Prop
  | unsigned {text : List Char} :
      MagnitudeText text →
      NumberText text
  | negative {text : List Char} :
      MagnitudeText text →
      NumberText ('-' :: text)

/-! ## Limits -/

/-- What the grammar leaves to a reader. -/
structure Limits where
  /-- Half of a surrogate pair may be escaped alone. -/
  loneSurrogates : Prop
  /-- This number is taken. -/
  takes : List Char → Prop

/-- No double is as large as the significand times this power of ten: no double is as large as the
power, and the significand is not zero as a double, or the product of the two is infinite. -/
def PastDoubles (significand : Nat) (power : Int) : Prop :=
  308 < power ∧ (Float.ofNat significand == 0) = false ∨
    0 ≤ power ∧ power ≤ 308 ∧
      (Float.ofNat significand * JsonNumber.powerOfTen power.natAbs).isInf = true

/-- The number is out of the range of whole numbers, and too large for a double. -/
def TooLarge (parts : JsonNumber.Parts) : Prop :=
  parts.integer? = none ∧ PastDoubles parts.scaled.1 parts.scaled.2

/-- Surrogates come in pairs, and no number is too large. -/
def Limits.reader : Limits :=
  ⟨False, fun text => ∀ parts, JsonNumber.parts? text = some parts → ¬ TooLarge parts⟩

/-! ## Strings -/

/-- The letters that a backslash escapes. -/
def escapedLetters : List Char :=
  ['"', '\\', '/', 'b', 'f', 'n', 'r', 't']

/-- What stands after a backslash. -/
inductive EscapeText (limits : Limits) : List Char → Prop
  | letter {c : Char} :
      c ∈ escapedLetters →
      EscapeText limits [c]
  | unit {a b c d : Char} {unit : Nat} :
      codeUnit? [a, b, c, d] = some unit →
      (isHighSurrogate unit = true ∨ isLowSurrogate unit = true → limits.loneSurrogates) →
      EscapeText limits ['u', a, b, c, d]
  | pair {a b c d e f g h : Char} {high low : Nat} :
      codeUnit? [a, b, c, d] = some high →
      isHighSurrogate high = true →
      codeUnit? [e, f, g, h] = some low →
      isLowSurrogate low = true →
      EscapeText limits ['u', a, b, c, d, '\\', 'u', e, f, g, h]

/-- What stands between the quotes of a string. -/
inductive StringBody (limits : Limits) : List Char → Prop
  | empty :
      StringBody limits []
  | plain {c : Char} {rest : List Char} :
      c ≠ '"' →
      c ≠ '\\' →
      0x20 ≤ c.toNat →
      StringBody limits rest →
      StringBody limits (c :: rest)
  | escaped {escape rest : List Char} :
      EscapeText limits escape →
      StringBody limits rest →
      StringBody limits ('\\' :: (escape ++ rest))

/-! ## Values -/

/-- Only spaces, tabs and line ends. -/
def IsGap (text : List Char) : Prop :=
  ∀ c ∈ text, isSpace c = true

/-- What a run of characters can be in a JSON text. An element is a value with gaps around it. -/
inductive Form where
  | value
  | object
  | element
  | items
  | fields
deriving DecidableEq, Repr

theorem IsGap.nil : IsGap [] := by
  simp [IsGap]

end CatalogFilter.Json
