import CatalogFilter.FilterFile.Setting

/-!
# Scalars in YAML

A quoted scalar is a text. A plain one is nothing, a flag, a number or a text, by its spelling. Two
scalars name the same value when they mean the same, so that `16` and `0x10` are one name and `16`
and `"16"` are two.
-/

namespace CatalogFilter.Yaml

/-- A scalar as it is written. -/
inductive Scalar where
  | plain (text : String)
  | quoted (text : String)
deriving DecidableEq, Repr

/-! ## Numbers -/

/-- The value of digits in a base of at most sixteen. A number that no 64-bit word holds counts as
the least of them. -/
def readBase? (base : Nat) (digits : List Char) : Option Nat :=
  if digits = [] then
    none
  else
    digits.foldlM
      (fun value c =>
        let digit :=
          if c.isDigit then
            c.toNat - '0'.toNat
          else if 'a' ≤ c.toLower ∧ c.toLower ≤ 'f' then
            c.toLower.toNat - 'a'.toNat + 10
          else
            16
        if digit < base then some (min Text.pastWords (base * value + digit)) else none)
      0

/-- A whole number in a base after its mark, with an optional sign. -/
def readSigned? (base : Nat) (text : List Char) : Option Int := do
  let value ←
    match text with
    | '-' :: digits => (readBase? base digits).map fun value => -(value : Int)
    | '+' :: digits => (readBase? base digits).map Int.ofNat
    | digits => (readBase? base digits).map Int.ofNat
  if Text.minInt64 ≤ value ∧ value ≤ Text.maxInt64 then some value else none

/-- The whole number that a plain scalar spells. A sign may follow the mark of a base and a
plus. -/
def integer? (text : String) : Option Int :=
  match text.toList with
  | '0' :: 'x' :: digits => readSigned? 16 digits
  | '0' :: 'o' :: digits => readSigned? 8 digits
  | '+' :: digits => readSigned? 10 digits
  | digits => readSigned? 10 digits

/-- The digits of a number that decide its double. Of those after them it only matters whether one
is not zero, since a number halfway between two doubles has fewer digits. -/
def decidingDigits : Nat :=
  800

/-- A number of few digits that, with so many zeros after it, rounds to the same double as the
digits. -/
def significand (digits : List Char) : Nat × Nat :=
  let (kept, left) := (digits.dropWhile (· = '0')).splitAt decidingDigits
  if left.all (· = '0') then
    (Text.digitsValue kept, left.length)
  else
    (10 * Text.digitsValue kept + 1, left.length - 1)

/-- The double that digits with a point or an exponent spell, correctly rounded. -/
def decimal? (text : List Char) : Option Float := do
  let (negative, unsigned) :=
    match text with
    | '-' :: rest => (true, rest)
    | '+' :: rest => (false, rest)
    | rest => (false, rest)
  let whole := unsigned.takeWhile Char.isDigit
  let rest := unsigned.dropWhile Char.isDigit
  let (fraction, rest) :=
    match rest with
    | '.' :: rest => (rest.takeWhile Char.isDigit, rest.dropWhile Char.isDigit)
    | rest => ([], rest)
  let digits := whole ++ fraction
  let exponent ←
    match rest with
    | [] => some (0 : Int)
    | mark :: rest =>
        if mark = 'e' ∨ mark = 'E' then
          match rest with
          | '-' :: digits => (Text.readDigits? digits).map fun value => -(value : Int)
          | '+' :: digits => (Text.readDigits? digits).map Int.ofNat
          | digits => (Text.readDigits? digits).map Int.ofNat
        else
          none
  if digits = [] then
    none
  else
    let (number, zeros) := significand digits
    let place := exponent - fraction.length + zeros
    let value := Float.ofScientific number (place < 0) place.natAbs
    some (if negative then -value else value)

/-- The spellings of the doubles that are not finite. -/
def specialNumbers : List String :=
  [".inf", ".Inf", ".INF", "+.inf", "+.Inf", "+.INF", "-.inf", "-.Inf", "-.INF",
    ".nan", ".NaN", ".NAN"]

/-! ## Resolution -/

/-- The setting of a plain scalar. The doubles that are not finite are refused. -/
def resolve? (text : String) : Option Setting :=
  if text ∈ ["", "~", "null"] then
    some .nothing
  else if text ∈ ["true", "True", "TRUE"] then
    some (.flag true)
  else if text ∈ ["false", "False", "FALSE"] then
    some (.flag false)
  else if text ∈ specialNumbers then
    none
  else
    match integer? text with
    | some value => some (.integer value)
    | none =>
        match decimal? text.toList with
        | some value => some (.real value)
        | none => some (.text text)

namespace Scalar

def setting? : Scalar → Option Setting
  | .plain text => resolve? text
  | .quoted text => some (.text text)

end Scalar

/-! ## Names of values -/

/-- What names a value in a table. A double names by its spelling. -/
inductive Name where
  | text (content : String)
  | flag (value : Bool)
  | integer (value : Int)
  | real (spelling : String)
deriving DecidableEq, Repr

namespace Name

/-- The name as a text. Different names may have one text. -/
def content : Name → String
  | .text content => content
  | .flag value => if value then "true" else "false"
  | .integer value => toString value
  | .real spelling => spelling

/-- A text that tells each name from all others. -/
def code : Name → String
  | .text content => "t" ++ content
  | .flag value => if value then "f1" else "f0"
  | .integer value => "i" ++ toString value
  | .real spelling => "r" ++ spelling

end Name

/-- The name that a scalar gives to a value, if it can. -/
def Scalar.name? : Scalar → Option Name
  | .quoted text => some (.text text)
  | .plain text =>
      match resolve? text with
      | some .nothing => none
      | some (.flag value) => some (.flag value)
      | some (.integer value) => some (.integer value)
      | some (.text content) => some (.text content)
      | _ => some (.real text)

/-- The table of named values, the last one first. No name may come twice; of two different names
with one text the later counts. -/
def tableOf? (fields : List (Name × Setting)) : Option Setting :=
  if (sortedDistinct (fields.map (·.1.code))).length = fields.length then
    some (.table (Table.ofPairs (fields.reverse.map fun field => (field.1.content, field.2))))
  else
    none

end CatalogFilter.Yaml
