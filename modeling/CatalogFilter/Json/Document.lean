import CatalogFilter.Json.Piece
import CatalogFilter.Table

/-!
# From pieces to a value

The containers that are still open are kept on a stack, the innermost on top. Each piece either
fits what has to come next or makes the text invalid. Containers nest at most 127 deep, and a name
that is repeated in an object keeps its last value.
-/

namespace CatalogFilter.Json

/-- A container that waits for a value. -/
inductive Frame where
  /-- An array with the items before the value, the last one first. -/
  | array (items : List Json)
  /-- An object with the fields before the value, the last one first, and the name of the value. -/
  | object (fields : List (String × Json)) (name : String)

/-- What has to come next. -/
inductive Expected where
  | value
  /-- The first item of an array, or its end. -/
  | firstItem
  /-- The first name of an object, or its end. -/
  | firstName
  | name (fields : List (String × Json))
  | colon (fields : List (String × Json)) (name : String)
  /-- What follows a finished value: a comma, the end of its container or the end of the text. -/
  | afterValue (value : Json)

/-- The deepest nesting of containers. -/
def maxNesting : Nat :=
  127

/-- What has to come after a value may start with this piece, under these open containers. -/
def startValue (stack : List Frame) : Piece → Option (List Frame × Expected)
  | .scalar value => some (stack, .afterValue value)
  | .openBracket => if stack.length < maxNesting then some (stack, .firstItem) else none
  | .openBrace => if stack.length < maxNesting then some (stack, .firstName) else none
  | _ => none

/-- One piece further. -/
def step (stack : List Frame) (expected : Expected) (piece : Piece) :
    Option (List Frame × Expected) :=
  match expected, piece, stack with
  | .value, piece, stack => startValue stack piece
  | .firstItem, .closeBracket, stack => some (stack, .afterValue (.array []))
  | .firstItem, piece, stack => startValue (.array [] :: stack) piece
  | .firstName, .closeBrace, stack => some (stack, .afterValue (.object []))
  | .firstName, .scalar (.string name), stack => some (stack, .colon [] name)
  | .name fields, .scalar (.string name), stack => some (stack, .colon fields name)
  | .colon fields name, .colon, stack => some (.object fields name :: stack, .value)
  | .afterValue value, .comma, .array items :: stack =>
      some (.array (value :: items) :: stack, .value)
  | .afterValue value, .closeBracket, .array items :: stack =>
      some (stack, .afterValue (.array (value :: items).reverse))
  | .afterValue value, .comma, .object fields name :: stack =>
      some (stack, .name ((name, value) :: fields))
  | .afterValue value, .closeBrace, .object fields name :: stack =>
      some (stack, .afterValue (.object (Table.ofPairs ((name, value) :: fields).reverse)))
  | _, _, _ => none

/-- The value that all the pieces make up. -/
def ofPieces? (stack : List Frame) (expected : Expected) : List Piece → Option Json
  | [] =>
      match stack, expected with
      | [], .afterValue value => some value
      | _, _ => none
  | piece :: rest =>
      match step stack expected piece with
      | some (stack, expected) => ofPieces? stack expected rest
      | none => none

/-- Reads a text that is one JSON value. -/
def parse? (text : String) : Option Json := do
  ofPieces? [] .value (← pieces? text)

end CatalogFilter.Json
