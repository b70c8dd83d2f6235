/-!
# Places in a YAML text

A cursor stands before the rest of a text and knows its line and its column. A text ends at its
first null character. Skipping a blank keeps the margin of a line, skipping a mark ends it.
-/

namespace CatalogFilter.Yaml

def isBlank (c : Char) : Bool :=
  c = ' ' || c = '\t'

def isBreak (c : Char) : Bool :=
  c = '\n' || c = '\r'

/-- The marks of lists and tables in brackets and braces. -/
def isFlowMark (c : Char) : Bool :=
  c = ',' || c = '[' || c = ']' || c = '\x7b' || c = '\x7d'

/-- Whether a line ends here. -/
def endsLine : List Char → Bool
  | [] => true
  | c :: _ => isBreak c

/-- Whether white space or the end of the text stands here. -/
def endsWord : List Char → Bool
  | [] => true
  | c :: _ => isBlank c || isBreak c

/-- Whether three equal marks and the end of a word stand here. -/
def startsWithMarks (mark : Char) : List Char → Bool
  | first :: second :: third :: rest =>
      first = mark && second = mark && third = mark && endsWord rest
  | _ => false

structure Cursor where
  rest : List Char
  index : Nat
  line : Nat
  column : Nat
  /-- Whether only white space stands before the cursor on its line. -/
  inMargin : Bool
deriving DecidableEq, Repr

namespace Cursor

/-- The cursor at the start of a text. -/
def start (text : List Char) : Cursor :=
  ⟨text.takeWhile (· ≠ '\x00'), 0, 0, 0, true⟩

/-- Skips `count` blanks. -/
def skipBlanks (cursor : Cursor) (count : Nat) : Cursor :=
  { cursor with
    rest := cursor.rest.drop count
    index := cursor.index + count
    column := cursor.column + count }

/-- Skips `count` characters that are no white space. -/
def skipMarks (cursor : Cursor) (count : Nat) : Cursor :=
  { cursor.skipBlanks count with inMargin := false }

/-- Skips `count` characters, the last of which ends a line. -/
def skipLine (cursor : Cursor) (count : Nat) : Cursor :=
  ⟨cursor.rest.drop count, cursor.index + count, cursor.line + 1, 0, true⟩

/-- Skips the end of a line: a carriage return, a line feed or both in this order. -/
def skipBreak (cursor : Cursor) : Cursor :=
  match cursor.rest with
  | '\r' :: '\n' :: _ => cursor.skipLine 2
  | c :: _ => if isBreak c then cursor.skipLine 1 else cursor
  | [] => cursor

/-- Skips a comment up to the end of its line. -/
def skipComment (cursor : Cursor) : Cursor :=
  cursor.skipBlanks (cursor.rest.takeWhile (!isBreak ·)).length

/-- The blanks ahead. -/
def blanks (cursor : Cursor) : List Char :=
  cursor.rest.takeWhile isBlank

/-- Skips blanks and a comment after them. A comment needs a blank before it. -/
def skipInLine? (cursor : Cursor) : Option Cursor :=
  let blanks := cursor.blanks
  let after := cursor.skipBlanks blanks.length
  match after.rest with
  | '#' :: _ => if blanks = [] then none else some after.skipComment
  | _ => some after

/-- Whether a mark of a document stands here: three dashes or three dots at the start of a line. -/
def atDocumentMark (cursor : Cursor) : Bool :=
  cursor.column = 0 && (startsWithMarks '-' cursor.rest || startsWithMarks '.' cursor.rest)

end Cursor

/-- White space between two runs of a scalar: the blanks on a line, or the ends of lines. -/
structure Gap where
  /-- The blanks, last first. -/
  blanks : List Char
  breaks : Nat
  /-- Whether the gap starts with an end of line that counts as nothing. -/
  escaped : Bool
deriving DecidableEq, Repr

namespace Gap

/-- Whether the gap goes beyond the line on which it starts. -/
def isFolded (gap : Gap) : Bool :=
  gap.escaped || gap.breaks ≠ 0

/-- The text that a gap stands for. One end of line is a space; more of them are one fewer. -/
def text (gap : Gap) : List Char :=
  if gap.escaped then
    List.replicate gap.breaks '\n'
  else
    match gap.breaks with
    | 0 => gap.blanks.reverse
    | 1 => [' ']
    | breaks + 2 => List.replicate (breaks + 1) '\n'

/-- Goes on through a gap, for at most `count` steps. `onTab` says how to go on at a tab in the
margin left of the column `margin`. -/
def extend? (margin : Int) (onTab : Cursor → Option Cursor) :
    Nat → Gap → Cursor → Option (Gap × Cursor)
  | 0, gap, cursor => some (gap, cursor)
  | count + 1, gap, cursor =>
      match cursor.rest with
      | [] => some (gap, cursor)
      | c :: _ =>
          if isBlank c then
            if !gap.isFolded then
              extend? margin onTab count { gap with blanks := c :: gap.blanks }
                (cursor.skipBlanks 1)
            else if c = '\t' ∧ (cursor.column : Int) < margin then
              match onTab cursor with
              | some cursor => extend? margin onTab count gap cursor
              | none => none
            else
              extend? margin onTab count gap (cursor.skipBlanks 1)
          else if isBreak c then
            extend? margin onTab count { gap with blanks := [], breaks := gap.breaks + 1 }
              cursor.skipBreak
          else
            some (gap, cursor)

end Gap

/-- A tab in a margin may stand on a line that holds nothing more than a comment. With a comment the
end of that line counts as nothing. -/
def emptyLine? (cursor : Cursor) : Option Cursor := do
  let after ← cursor.skipInLine?
  if !endsLine after.rest then
    none
  else if (cursor.rest.dropWhile isBlank).head? = some '#' then
    some after.skipBreak
  else
    some after

end CatalogFilter.Yaml
