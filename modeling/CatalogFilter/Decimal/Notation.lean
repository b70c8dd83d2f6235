import CatalogFilter.Decimal.Shortest

/-!
# Floating-point numbers as text

A layout fixes how the shortest decimal of a number is laid out: which numbers are written out in
full and which with an exponent, and whether a whole number keeps a zero after the point.
-/

namespace CatalogFilter.Decimal

structure Layout where
  /-- Numbers whose leading digit stands below this place are written with an exponent. -/
  leastPlain : Option Int
  /-- Numbers whose leading digit stands above this place are written with an exponent. -/
  greatestPlain : Option Int
  /-- Whether a whole number is written with `.0`. -/
  keepsPoint : Bool
  tie : Tie
deriving DecidableEq, Repr

/-- The digits of a decimal, most significant first. -/
def digitChars (decimal : Decimal) : List Char :=
  Nat.toDigits 10 decimal.digits

/-- The place of the leading digit. -/
def leading (decimal : Decimal) : Int :=
  decimal.exponent + decimal.digitChars.length - 1

/-- All digits of a decimal around a point. -/
def plain (keepsPoint : Bool) (decimal : Decimal) : List Char :=
  let digits := decimal.digitChars
  if 0 ≤ decimal.exponent then
    digits ++ List.replicate decimal.exponent.toNat '0' ++ (if keepsPoint then ['.', '0'] else [])
  else
    let places := (-decimal.exponent).toNat
    if places < digits.length then
      digits.take (digits.length - places) ++ '.' :: digits.drop (digits.length - places)
    else
      '0' :: '.' :: List.replicate (places - digits.length) '0' ++ digits

/-- One digit before the point, then an exponent with its sign. -/
def scientific (decimal : Decimal) : List Char :=
  let mantissa :=
    match decimal.digitChars with
    | first :: second :: others => first :: '.' :: second :: others
    | digits => digits
  let leading := decimal.leading
  mantissa ++ 'e' :: (if leading < 0 then '-' else '+') :: Nat.toDigits 10 leading.natAbs

/-- Whether a leading digit at this place is written out in full. -/
def Layout.isPlain (layout : Layout) (leading : Int) : Bool :=
  layout.leastPlain.all (· ≤ leading) && layout.greatestPlain.all (leading ≤ ·)

def Layout.decimalText (layout : Layout) (decimal : Decimal) : List Char :=
  if layout.isPlain decimal.leading then decimal.plain layout.keepsPoint else decimal.scientific

/-- A double as text. -/
def Layout.text (layout : Layout) (value : Float) : String :=
  let bits := value.toBits.toNat
  let exponentField := bits / twoTo 52 % twoTo 11
  let fraction := bits % twoTo 52
  if exponentField = 2047 then
    if fraction ≠ 0 then "NaN" else if bits / twoTo 63 = 1 then "-inf" else "inf"
  else
    let magnitude :=
      if exponentField = 0 ∧ fraction = 0 then
        if layout.keepsPoint then ['0', '.', '0'] else ['0']
      else
        layout.decimalText ((Rounding.ofFields exponentField fraction).shortest layout.tie)
    String.ofList (if bits / twoTo 63 = 1 then '-' :: magnitude else magnitude)

end CatalogFilter.Decimal
