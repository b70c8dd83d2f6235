import CatalogFilter.Json
import CatalogFilter.Text.Integer

/-!
# Numbers in JSON text

A number is a sign, digits, and maybe a fraction and an exponent. A whole number in the range of a
64-bit word is kept exactly. Any other number becomes a double in two steps: the leading digits
that fit a 64-bit word make a significand, and one multiplication or division by a power of ten
scales it. A number too large for a double is refused.
-/

namespace CatalogFilter.JsonNumber

/-- The parts of a number as written. -/
structure Parts where
  negative : Bool
  whole : List Char
  /-- The digits after the point, if there is a point. -/
  fraction : Option (List Char)
  exponent : Option Int
deriving DecidableEq, Repr

/-- Digits at the front, at least one. -/
def digits? (text : List Char) : Option (List Char × List Char) :=
  match text.takeWhile Char.isDigit with
  | [] => none
  | first :: others => some (first :: others, text.dropWhile Char.isDigit)

/-- Digits at the front without a needless zero. -/
def whole? (text : List Char) : Option (List Char × List Char) :=
  match digits? text with
  | some ('0' :: _ :: _, _) => none
  | found => found

def fraction? (text : List Char) : Option (Option (List Char) × List Char) :=
  match text with
  | '.' :: rest => (digits? rest).map fun (digits, after) => (some digits, after)
  | _ => some (none, text)

def exponent? (text : List Char) : Option (Option Int × List Char) :=
  let signed (negative : Bool) (rest : List Char) : Option (Option Int × List Char) :=
    (digits? rest).map fun (digits, after) =>
      let size : Int := Text.cappedValue Text.pastWords digits
      (some (if negative then -size else size), after)
  match text with
  | mark :: rest =>
      if mark = 'e' ∨ mark = 'E' then
        match rest with
        | '-' :: rest => signed true rest
        | '+' :: rest => signed false rest
        | rest => signed false rest
      else
        some (none, text)
  | [] => some (none, text)

/-- The parts of a text that is a number as a whole. -/
def parts? (text : List Char) : Option Parts := do
  let (negative, unsigned) :=
    match text with
    | '-' :: rest => (true, rest)
    | _ => (false, text)
  let (whole, rest) ← whole? unsigned
  let (fraction, rest) ← fraction? rest
  let (exponent, rest) ← exponent? rest
  if rest = [] then some ⟨negative, whole, fraction, exponent⟩ else none

/-- Takes digits into a significand for as long as it stays in the range of a 64-bit word; answers
it with the digits left over. -/
def gather (significand : Nat) : List Char → Nat × List Char
  | [] => (significand, [])
  | digit :: rest =>
      let next := 10 * significand + Text.digitsValue [digit]
      if next ≤ Text.maxUInt64 then gather next rest else (significand, digit :: rest)

/-- The greatest power of ten that a double holds. -/
def greatestPower : Nat :=
  308

def powerOfTen (exponent : Nat) : Float :=
  Float.ofScientific 1 false exponent

/-- Divides by a power of ten, a greatest power at a time. Zero stays zero. -/
def divide (value : Float) (exponent : Nat) : Float :=
  if greatestPower < exponent then
    if value == 0 then
      value
    else
      divide (value / powerOfTen greatestPower) (exponent - greatestPower)
  else
    value / powerOfTen exponent
termination_by exponent
decreasing_by
  simp only [greatestPower] at *
  omega

/-- Multiplies by a power of ten; too large a result is refused. -/
def multiply? (value : Float) (exponent : Nat) : Option Float :=
  if greatestPower < exponent then
    if value == 0 then some value else none
  else
    let product := value * powerOfTen exponent
    if product.isInf then none else some product

/-- The double of a significand and a power of ten. -/
def scale? (significand : Nat) (exponent : Int) : Option Float :=
  let value := Float.ofNat significand
  if exponent < 0 then
    some (divide value exponent.natAbs)
  else
    multiply? value exponent.natAbs

/-- The whole number that the parts are, when it has no point and no exponent and is in range.
Minus zero is a double. -/
def Parts.integer? (parts : Parts) : Option Int :=
  match parts.fraction, parts.exponent with
  | none, none =>
      let size := Text.cappedValue Text.pastWords parts.whole
      if parts.negative then
        if size ≠ 0 ∧ Text.minInt64 ≤ -(size : Int) then some (-(size : Int)) else none
      else
        if size ≤ Text.maxUInt64 then some size else none
  | _, _ => none

/-- The significand of the parts and the power of ten that scales it. Digits of the whole part that
do not fit the significand count as powers of ten; those of the fraction are dropped. -/
def Parts.scaled (parts : Parts) : Nat × Int :=
  let fraction := parts.fraction.getD []
  let (significand, wholeLeft) := gather 0 parts.whole
  let (significand, fractionLeft) := gather significand fraction
  let taken := fraction.length - fractionLeft.length
  (significand, (wholeLeft.length : Int) - taken + parts.exponent.getD 0)

/-- The double that the parts are. -/
def Parts.real? (parts : Parts) : Option Float := do
  let (significand, power) := parts.scaled
  let value ← scale? significand power
  some (if parts.negative then -value else value)

/-- Reads a text that is a number as a whole. -/
def read? (text : List Char) : Option JsonNumber := do
  let parts ← parts? text
  match parts.integer? with
  | some value => some (.integer value)
  | none => (parts.real?).map .real

end CatalogFilter.JsonNumber
