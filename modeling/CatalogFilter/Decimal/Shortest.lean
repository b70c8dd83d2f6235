/-!
# The shortest decimal of a binary floating-point number

A double stands for `significand * 2 ^ exponent`. The decimals that read back as it form an
interval around it, with its ends when the significand is even. Among the decimals in the interval
the shortest one has the fewest digits and, of those, lies nearest to the number. The search tries
one digit, two digits and so on; on each grid only the two neighbours of the number can be nearest.
All of it is arithmetic on natural numbers.
-/

namespace CatalogFilter

/-- The number `digits * 10 ^ exponent`. -/
structure Decimal where
  digits : Nat
  exponent : Int
deriving DecidableEq, Repr

namespace Decimal

/-- Two to a power. -/
def twoTo (exponent : Nat) : Nat :=
  Nat.pow 2 exponent

/-- Ten to a power. -/
def tenTo (exponent : Nat) : Nat :=
  Nat.pow 10 exponent

/-- Where a number half-way between two decimals goes. -/
inductive Tie where
  | toEven
  | up
deriving DecidableEq, Repr

/-- A positive number with the interval of those that round to it, all three over one
denominator. -/
structure Rounding where
  low : Nat
  number : Nat
  high : Nat
  denominator : Nat
  closed : Bool
deriving DecidableEq, Repr

/-- The interval of a finite double other than zero, from the eleven bits of its exponent and the
fifty-two of its fraction. Just below a power of two the neighbours lie half as far apart. -/
def Rounding.ofFields (exponentField fraction : Nat) : Rounding :=
  let significand := if exponentField = 0 then fraction else twoTo 52 + fraction
  let below := if fraction = 0 ∧ 1 < exponentField then 1 else 2
  let exponent : Int := (max exponentField 1 : Nat) - 1077
  let scale := twoTo exponent.toNat
  { low := (4 * significand - below) * scale
    number := 4 * significand * scale
    high := (4 * significand + 2) * scale
    denominator := twoTo (-exponent).toNat
    closed := significand % 2 = 0 }

/-- Whether `digits` units of `unit / denominator` lie in the interval. -/
def Rounding.holds (rounding : Rounding) (numerator denominator : Nat) : Bool :=
  let low := rounding.low * denominator
  let high := rounding.high * denominator
  let value := numerator * rounding.denominator
  if rounding.closed then low ≤ value ∧ value ≤ high else low < value ∧ value < high

/-- The exponent of the power of ten at or below the number. -/
def Rounding.leadingExponent (rounding : Rounding) : Int :=
  let scaled := rounding.number * tenTo 400 / rounding.denominator
  ((Nat.toDigits 10 scaled).length : Int) - 401

/-- The decimal nearest to the number among those with the given last place, if it lies in the
interval. -/
def Rounding.nearest? (tie : Tie) (rounding : Rounding) (place : Int) : Option Decimal :=
  let numerator := rounding.number * tenTo (-place).toNat
  let denominator := rounding.denominator * tenTo place.toNat
  let below := numerator / denominator
  let remainder := numerator % denominator
  let holds (digits : Nat) := rounding.holds (digits * tenTo place.toNat) (tenTo (-place).toNat)
  let above := below + 1
  let preferAbove : Bool :=
    if 2 * remainder = denominator then
      match tie with
      | .toEven => below % 2 = 1
      | .up => true
    else
      denominator < 2 * remainder
  if holds below && (!holds above || !preferAbove) then
    some ⟨below, place⟩
  else if holds above then
    some ⟨above, place⟩
  else
    none

/-- Drops zeros at the end, which the exponent takes up. There are at most `count` of them. -/
def trim (count : Nat) (decimal : Decimal) : Decimal :=
  match count with
  | 0 => decimal
  | count + 1 =>
      if decimal.digits % 10 = 0 then
        trim count ⟨decimal.digits / 10, decimal.exponent + 1⟩
      else
        decimal

/-- The shortest decimal in the interval. Seventeen digits are enough for every double. -/
def Rounding.shortest (tie : Tie) (rounding : Rounding) : Decimal :=
  let leading := rounding.leadingExponent
  let found := (List.range 17).findSome? fun (more : Nat) => rounding.nearest? tie (leading - more)
  match found with
  | some decimal => decimal.trim 17
  | none => ⟨0, 0⟩

end Decimal

end CatalogFilter
