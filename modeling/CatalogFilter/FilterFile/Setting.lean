import CatalogFilter.Decimal.Notation
import CatalogFilter.Json
import CatalogFilter.Table
import CatalogFilter.Text.Integer

/-!
# Settings

What a filter file holds, whatever its format: nothing, scalars, lists and tables. A scalar can
stand where a text is wanted. The names at the top of a file are paths, so that `a.b` puts a
setting into the table `a`; a table that is put where a table stands is merged into it.
-/

namespace CatalogFilter

inductive Setting where
  | nothing
  | flag (value : Bool)
  | integer (value : Int)
  | real (value : Float)
  | text (content : String)
  | list (items : List Setting)
  | table (fields : List (String × Setting))

namespace Setting

/-- Doubles stand in texts with all their digits and without a needless point. -/
def layout : Decimal.Layout :=
  { leastPlain := none
    greatestPlain := none
    keepsPoint := false
    tie := .up }

/-- A scalar as a text. -/
def asText? : Setting → Option String
  | .text content => some content
  | .flag value => some (if value then "true" else "false")
  | .integer value => some (toString value)
  | .real value => some (layout.text value)
  | .nothing | .list _ | .table _ => none

/-- The fields of a table; any other setting has none. -/
def fields : Setting → Table Setting
  | .table fields => fields
  | _ => []

/-- The items of a list; any other setting has none. -/
def items : Setting → List Setting
  | .list items => items
  | _ => []

mutual

/-- The setting of a JSON value. -/
def ofJson : Json → Setting
  | .null => .nothing
  | .boolean value => .flag value
  | .number (.integer value) => .integer value
  | .number (.real value) => .real value
  | .string content => .text content
  | .array items => .list (ofJsonItems items)
  | .object fields => .table (ofJsonFields fields)

def ofJsonItems : List Json → List Setting
  | [] => []
  | item :: rest => ofJson item :: ofJsonItems rest

def ofJsonFields : List (String × Json) → List (String × Setting)
  | [] => []
  | (name, value) :: rest => (name, ofJson value) :: ofJsonFields rest

end

mutual

/-- Puts `value` where `held` stands. A table is merged into the fields that are there, anything
else replaces. -/
def put (held : Setting) : Setting → Setting
  | .table incoming =>
      .table (if held.fields.isEmpty then incoming else putFields held.fields incoming)
  | value => value

def putFields (held : List (String × Setting)) :
    List (String × Setting) → List (String × Setting)
  | [] => held
  | (name, value) :: rest =>
      putFields (Table.insert name (put ((Table.get? held name).getD .nothing) value) held) rest

end

/-! ## Paths -/

/-- A step of a path: into a table by name or into a list by position. A negative position counts
from the end. -/
inductive Step where
  | name (name : String)
  | position (index : Int)
deriving DecidableEq, Repr

/-- Changes the item at a position. A list that is too short grows, at its front for a position
that counts from the end. -/
def changeAt (index : Int) (change : Setting → Setting) (items : List Setting) : List Setting :=
  let missing (count : Nat) := List.replicate count Setting.nothing
  if 0 ≤ index then
    let padded := items ++ missing (index.toNat + 1 - items.length)
    padded.modify index.toNat change
  else
    let padded := missing (index.natAbs - items.length) ++ items
    padded.modify (padded.length - index.natAbs) change

/-- Puts `value` at the end of a path and makes the tables and lists on the way. -/
def putAt : List Step → Setting → Setting → Setting
  | [], value, held => put held value
  | .name name :: path, value, held =>
      let inner := (Table.get? held.fields name).getD .nothing
      .table (Table.insert name (putAt path value inner) held.fields)
  | .position index :: path, value, held =>
      .list (changeAt index (putAt path value) held.items)

def isNameChar (c : Char) : Bool :=
  c.isAlphanum || c = '_' || c = '-'

/-- A name at the front of a path. -/
def pathName? (text : List Char) : Option (Step × List Char) :=
  match text.takeWhile isNameChar with
  | [] => none
  | name => some (.name (String.ofList name), text.dropWhile isNameChar)

/-- A position in brackets, after the opening one. White space may stand on both sides of it. -/
def pathPosition? (text : List Char) : Option (Step × List Char) :=
  let isSpace (c : Char) := c = ' ' || c = '\t'
  let text := text.dropWhile isSpace
  let digits := (text.dropWhile (· = '-')).takeWhile Char.isDigit
  let sign := text.takeWhile (· = '-')
  match (text.drop (sign.length + digits.length)).dropWhile isSpace with
  | ']' :: rest =>
      (Text.readInt64? (String.ofList (sign ++ digits))).map fun index => (.position index, rest)
  | _ => none

/-- The steps after the first name, at most `count` of them. -/
def pathSteps? : Nat → List Char → Option (List Step)
  | _, [] => some []
  | 0, _ => none
  | count + 1, '.' :: rest => do
      let (step, rest) ← pathName? rest
      (← pathSteps? count rest) |> (step :: ·) |> some
  | count + 1, '[' :: rest => do
      let (step, rest) ← pathPosition? rest
      (← pathSteps? count rest) |> (step :: ·) |> some
  | _, _ => none

/-- The path that a name at the top spells. A name that spells none is one step. -/
def pathOf (name : String) : List Step :=
  let spelled := do
    let (first, rest) ← pathName? name.toList
    let steps ← pathSteps? rest.length rest
    some (first :: steps)
  spelled.getD [.name name]

/-- The settings of a file whose top holds these fields. -/
def ofTop (fields : Table Setting) : Setting :=
  fields.foldl (fun held (name, value) => putAt (pathOf name) value held) (.table [])

end Setting

end CatalogFilter
