/-!
# Bytes read leniently as UTF-8

Each character of the bytes is read as it is encoded. Where no character starts, the longest run
that could have started one counts as one replacement character.
-/

namespace CatalogFilter.Text

/-- What stands for bytes that encode nothing. -/
def replacement : Char :=
  Char.ofNat 0xFFFD

/-- The range of the second byte of a character, and how many bytes follow the first. Each first
byte has its own range, which leaves out surrogates, numbers too large and forms too long. -/
def followers? (first : UInt8) : Option (UInt8 × UInt8 × Nat) :=
  if 0xC2 ≤ first ∧ first ≤ 0xDF then
    some (0x80, 0xBF, 1)
  else if first = 0xE0 then
    some (0xA0, 0xBF, 2)
  else if first = 0xED then
    some (0x80, 0x9F, 2)
  else if 0xE1 ≤ first ∧ first ≤ 0xEF then
    some (0x80, 0xBF, 2)
  else if first = 0xF0 then
    some (0x90, 0xBF, 3)
  else if 0xF1 ≤ first ∧ first ≤ 0xF3 then
    some (0x80, 0xBF, 3)
  else if first = 0xF4 then
    some (0x80, 0x8F, 3)
  else
    none

/-- The bits that the first byte of a character gives to its code point. -/
def firstBits (first : UInt8) : Nat :=
  if first < 0xE0 then
    first.toNat % 0x20
  else if first < 0xF0 then
    first.toNat % 0x10
  else
    first.toNat % 0x08

/-- A character that is read part of the way: the bits so far, the range of the next byte and how
many bytes are missing. -/
structure Unfinished where
  bits : Nat
  low : UInt8
  high : UInt8
  missing : Nat
deriving DecidableEq, Repr

/-- What a byte that starts a character gives: the character itself, the replacement, or a
character that is unfinished. -/
def startChar (byte : UInt8) : Char ⊕ Unfinished :=
  if byte < 0x80 then
    .inl (Char.ofNat byte.toNat)
  else
    match followers? byte with
    | some (low, high, missing) => .inr ⟨firstBits byte, low, high, missing⟩
    | none => .inl replacement

/-- Reads on; `read` holds the characters so far, the last one first. -/
def readLenient (read : List Char) (open? : Option Unfinished) : List UInt8 → List Char
  | [] => (if open?.isSome then replacement :: read else read).reverse
  | byte :: rest =>
      let begun (read : List Char) : List Char × Option Unfinished :=
        match startChar byte with
        | .inl c => (c :: read, none)
        | .inr unfinished => (read, some unfinished)
      let (read, open?) :=
        match open? with
        | none => begun read
        | some unfinished =>
            if unfinished.low ≤ byte ∧ byte ≤ unfinished.high then
              let bits := 0x40 * unfinished.bits + byte.toNat % 0x40
              if unfinished.missing ≤ 1 then
                (Char.ofNat bits :: read, none)
              else
                (read, some ⟨bits, 0x80, 0xBF, unfinished.missing - 1⟩)
            else
              begun (replacement :: read)
      readLenient read open? rest

/-- The text of some bytes; a byte order mark in front is left out. -/
def ofBytesLenient (bytes : List UInt8) : String :=
  let content :=
    match bytes with
    | 0xEF :: 0xBB :: 0xBF :: rest => rest
    | _ => bytes
  String.ofList (readLenient [] none content)

end CatalogFilter.Text
