/-!
# Whole numbers in decimal digits

Readers for numbers of a fixed range: a sign where the range has one, then ASCII digits only. A
number outside the range is refused, never wrapped. The value of a run of digits is held at a limit
while it is read, so that a long run takes no more time than its length; the main statement says
that this is the least of the limit and the value.
-/

namespace CatalogFilter.Text

/-- The value of a run of ASCII digits, most significant first. -/
def digitsValue (digits : List Char) : Nat :=
  digits.foldl (fun value digit => 10 * value + (digit.toNat - '0'.toNat)) 0

/-- The value of a run of ASCII digits, or the limit if that is less. -/
def cappedValue (limit : Nat) (digits : List Char) : Nat :=
  digits.foldl (fun value digit => min limit (10 * value + (digit.toNat - '0'.toNat))) 0

theorem foldl_min_eq_min
    (limit start : Nat) (digits : List Char) :
    digits.foldl (fun value digit => min limit (10 * value + (digit.toNat - '0'.toNat)))
        (min limit start)
      = min limit
          (digits.foldl (fun value digit => 10 * value + (digit.toNat - '0'.toNat)) start) := by
  induction digits generalizing start with
  | nil =>
      rfl
  | cons digit rest inductionHypothesis =>
      have step :
          min limit (10 * min limit start + (digit.toNat - '0'.toNat))
            = min limit (10 * start + (digit.toNat - '0'.toNat)) := by
        omega
      simp only [List.foldl_cons]
      rw [step]
      exact inductionHypothesis (10 * start + (digit.toNat - '0'.toNat))

theorem cappedValue_eq_min (limit : Nat) (digits : List Char) :
    cappedValue limit digits = min limit (digitsValue digits) := by
  have whole := foldl_min_eq_min limit 0 digits
  rwa [Nat.min_zero] at whole

/-- The least number that no 64-bit word holds. -/
def pastWords : Nat :=
  18446744073709551616

/-- The value of a non-empty run of ASCII digits. A number that no 64-bit word holds counts as the
least of them. -/
def readDigits? (text : List Char) : Option Nat :=
  if text ≠ [] ∧ text.all Char.isDigit then some (cappedValue pastWords text) else none

/-- The least number of a signed 64-bit word. -/
def minInt64 : Int :=
  -9223372036854775808

/-- The greatest number of a signed 64-bit word. -/
def maxInt64 : Int :=
  9223372036854775807

/-- The greatest number of an unsigned 64-bit word. -/
def maxUInt64 : Nat :=
  18446744073709551615

/-- An optional sign and digits, in the range of a signed 64-bit word. -/
def readInt64? (text : String) : Option Int := do
  let value ←
    match text.toList with
    | '-' :: digits => (readDigits? digits).map fun value => -(value : Int)
    | '+' :: digits => (readDigits? digits).map Int.ofNat
    | digits => (readDigits? digits).map Int.ofNat
  if minInt64 ≤ value ∧ value ≤ maxInt64 then some value else none

/-- An optional plus and digits, in the range of an unsigned 64-bit word. -/
def readUInt64? (text : String) : Option Nat := do
  let value ←
    match text.toList with
    | '+' :: digits => readDigits? digits
    | digits => readDigits? digits
  if value ≤ maxUInt64 then some value else none

end CatalogFilter.Text
