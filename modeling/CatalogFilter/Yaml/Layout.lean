import CatalogFilter.Yaml.Cursor
import CatalogFilter.Yaml.Token

/-!
# The layout of a YAML text

While a text is cut into tokens, its layout is kept: the columns of the open blocks, the open
brackets and braces, and what was read last that may still turn out to be a key. A key in a block
stands on one line and takes at most 1024 characters.
-/

namespace CatalogFilter.Yaml

/-- A step of indentation: the indentation outside it, and whether it is that of a block. The other
steps are one column wide and only ask for something to stand to the right. -/
structure Level where
  outside : Int
  isBlock : Bool
deriving DecidableEq, Repr

/-- What may turn out to be a key: the number of tokens before it, where it stands, and whether it
has to be a key. -/
structure PossibleKey where
  position : Nat
  index : Nat
  line : Nat
  column : Nat
  required : Bool
deriving DecidableEq, Repr

structure Layout where
  cursor : Cursor
  /-- The tokens so far, the last one first. -/
  tokens : List Token
  count : Nat
  /-- What may be a key inside the innermost open bracket or brace. -/
  key : Option PossibleKey
  /-- What may be keys outside, one for each open bracket and brace. -/
  outerKeys : List (Option PossibleKey)
  keyAllowed : Bool
  indent : Int
  levels : List Level
  /-- Whether a pair in brackets stands in a table of braces already. -/
  tableStarted : Bool
  /-- Whether a pair in brackets without braces is open. -/
  pairOpen : Bool
  /-- Where a colon may follow without white space after it. -/
  colonIndex : Nat

namespace Layout

/-- The layout before the first character. -/
def start (text : List Char) : Layout :=
  { cursor := .start text
    tokens := []
    count := 0
    key := none
    outerKeys := []
    keyAllowed := true
    indent := -1
    levels := []
    tableStarted := false
    pairOpen := false
    colonIndex := 0 }

/-- Whether a bracket or a brace is open. -/
def inFlow (layout : Layout) : Bool :=
  !layout.outerKeys.isEmpty

def column (layout : Layout) : Nat :=
  layout.cursor.column

/-- The brackets and braces that may be open at once. -/
def deepestFlow : Nat :=
  255

/-- The characters that a key in a block may take. -/
def longestKey : Nat :=
  1024

/-! ## Tokens -/

def push (layout : Layout) (token : Token) : Layout :=
  { layout with
    tokens := token :: layout.tokens
    count := layout.count + 1 }

/-- Puts a token before all but the first `position` tokens. -/
def insertAt (layout : Layout) (position : Nat) (token : Token) : Layout :=
  let later := layout.count - position
  { layout with
    tokens := layout.tokens.take later ++ token :: layout.tokens.drop later
    count := layout.count + 1 }

/-! ## Keys -/

def allowKey (layout : Layout) (allowed : Bool) : Layout :=
  { layout with keyAllowed := allowed }

/-- Notes that what starts here may be a key, where a key is allowed. What starts at the column of
the innermost block has to be one. -/
def noteKey (layout : Layout) : Layout :=
  if layout.keyAllowed then
    let key : PossibleKey :=
      { position := layout.count
        index := layout.cursor.index
        line := layout.cursor.line
        column := layout.column
        required :=
          !layout.inFlow && decide (layout.indent = layout.column)
            && (layout.levels.head?).any Level.isBlock }
    { layout with key := some key }
  else
    layout

/-- Nothing read so far is a key any more. -/
def dropKey? (layout : Layout) : Option Layout :=
  if layout.key.any PossibleKey.required then none else some { layout with key := none }

/-- In a block nothing on an earlier line or too far back is a key any more. -/
def dropOldKey? (layout : Layout) : Option Layout :=
  match layout.key with
  | none => some layout
  | some key =>
      let isOld :=
        key.line < layout.cursor.line || key.index + longestKey < layout.cursor.index
      if !layout.inFlow && isOld then layout.dropKey? else some layout

/-! ## Indentation -/

/-- Gives up the innermost step of indentation if it is not that of a block. -/
def dropColumn (layout : Layout) : Layout :=
  match layout.levels with
  | level :: rest =>
      if level.isBlock then layout else { layout with indent := level.outside, levels := rest }
  | [] => layout

/-- Asks for one more column, inside a block. -/
def addColumn (layout : Layout) : Layout :=
  if !layout.inFlow && (layout.levels.head?).any Level.isBlock then
    { layout with
      indent := layout.indent + 1
      levels := ⟨layout.indent, false⟩ :: layout.levels }
  else
    layout

/-- Starts a block at a column to the right of the innermost one. Its token goes before all but the
first `position` tokens. -/
def openBlock (layout : Layout) (column position : Nat) (token : Token) : Layout :=
  if layout.inFlow then
    layout
  else
    let layout := if layout.indent ≤ column then layout.dropColumn else layout
    if layout.indent < column then
      { layout.insertAt position token with
        indent := column
        levels := ⟨layout.indent, true⟩ :: layout.levels }
    else
      layout

/-- Ends the steps of indentation to the right of a column. -/
def closeLevels (column : Int) : List Level → Layout → Layout
  | [], layout => { layout with levels := [] }
  | level :: rest, layout =>
      if column < layout.indent then
        let layout := if level.isBlock then layout.push .blockEnd else layout
        closeLevels column rest { layout with indent := level.outside }
      else
        { layout with levels := level :: rest }

def closeBlocks (layout : Layout) (column : Int) : Layout :=
  if layout.inFlow then layout else closeLevels column layout.levels layout

/-! ## Brackets and braces -/

/-- One more open bracket or brace, if it may be. -/
def enterFlow? (layout : Layout) : Option Layout :=
  if layout.outerKeys.length < deepestFlow then
    some { layout with key := none, outerKeys := layout.key :: layout.outerKeys }
  else
    none

/-- One fewer. -/
def leaveFlow (layout : Layout) : Layout :=
  match layout.outerKeys with
  | key :: rest => { layout with key, outerKeys := rest }
  | [] => layout

/-- Ends the pair that is open in brackets without braces, if there is one. -/
def closePair (layout : Layout) : Layout :=
  if layout.pairOpen then
    { layout.push .flowTableEnd with pairOpen := false, tableStarted := false }
  else
    layout

end Layout

end CatalogFilter.Yaml
