import CatalogFilter.Catalog.Record
import CatalogFilter.Cause
import CatalogFilter.Text.Blank

/-!
# The lines of a catalog

A catalog is cut at its newline bytes, and one carriage return before a newline goes with it. Each
line has to be UTF-8. Lines that hold only white space are left out, but they count for the numbers
of the others.
-/

namespace CatalogFilter.Catalog

def newline : UInt8 :=
  10

def carriageReturn : UInt8 :=
  13

/-- Bytes in reverse without a carriage return in front. -/
def dropReturn : List UInt8 → List UInt8
  | [] => []
  | byte :: rest => if byte = carriageReturn then rest else byte :: rest

/-- The lines of some bytes; `cut` holds the lines before, the last one first, and `current` the
bytes of the line so far in reverse. -/
def cutLines (cut : List (List UInt8)) (current : List UInt8) : List UInt8 → List (List UInt8)
  | [] => (if current = [] then cut else current.reverse :: cut).reverse
  | byte :: rest =>
      if byte = newline then
        cutLines ((dropReturn current).reverse :: cut) [] rest
      else
        cutLines cut (byte :: current) rest

/-- The text of some bytes, if they are UTF-8. -/
def decode? (bytes : List UInt8) : Option String :=
  String.fromUTF8? ⟨bytes.toArray⟩

/-- A line that could not be read. -/
structure LineError where
  line : Nat
  failure : FileFailure
deriving DecidableEq, Repr

namespace LineError

def message (error : LineError) : String :=
  "Catalog: Failed to read line " ++ toString error.line

end LineError

/-- Reads lines in order; `number` is the number of the first one and `read` holds the lines kept
before, the last one first. -/
def keepLines (read : List Line) (number : Nat) :
    List (List UInt8) → Except LineError (List Line)
  | [] => .ok read.reverse
  | bytes :: rest =>
      match decode? bytes with
      | none => .error ⟨number, .invalidData⟩
      | some text =>
          if Text.isBlank text.toList then
            keepLines read (number + 1) rest
          else
            keepLines (⟨number, text⟩ :: read) (number + 1) rest

/-- The lines of a catalog that hold more than white space. -/
def readLines (bytes : ByteArray) : Except LineError (List Line) :=
  keepLines [] 1 (cutLines [] [] bytes.toList)

end CatalogFilter.Catalog
