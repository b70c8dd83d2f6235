import CatalogFilter.Yaml.Layout
import CatalogFilter.Yaml.Plain
import CatalogFilter.Yaml.Quoted

/-!
# From YAML text to tokens

Each step skips what means nothing and reads what starts at the next character. A colon after
something that may be a key puts the token of a key before it, and with the first key of a block
also the start of that block. Anchors, aliases, tags, directives and block scalars are refused.
-/

namespace CatalogFilter.Yaml

namespace Layout

/-! ## White space and comments -/

/-- Skips `count` marks. -/
def skipMarks (layout : Layout) (count : Nat) : Layout :=
  { layout with cursor := layout.cursor.skipMarks count }

/-- Skips blanks and a comment after them. -/
def skipInLine? (layout : Layout) : Option Layout :=
  layout.cursor.skipInLine?.map fun cursor => { layout with cursor }

/-- Skips the end of a line, after which a key may stand in a block. -/
def skipBreak (layout : Layout) : Layout :=
  { layout with
    cursor := layout.cursor.skipBreak
    keyAllowed := layout.keyAllowed || !layout.inFlow }

/-- Skips to the next token, for at most `bound` steps. A tab may not stand in the indentation of a
block. -/
def skipToToken? : Nat → Layout → Option Layout
  | 0, layout => some layout
  | bound + 1, layout =>
      match layout.cursor.rest with
      | [] => some layout
      | c :: _ =>
          if c = '\t' ∧ layout.levels ≠ [] ∧ layout.cursor.inMargin
              ∧ (layout.column : Int) < layout.indent then
            match layout.cursor.skipInLine? with
            | none => none
            | some cursor =>
                if endsLine cursor.rest then
                  skipToToken? bound { layout with cursor }
                else
                  none
          else if isBlank c then
            skipToToken? bound { layout with cursor := layout.cursor.skipBlanks 1 }
          else if isBreak c then
            skipToToken? bound layout.skipBreak
          else if c = '#' then
            skipToToken? bound { layout with cursor := layout.cursor.skipComment }
          else
            some layout

/-- Skips spaces, ends of lines and comments after the mark of a key. There has to be some, and no
tab may follow. -/
def skipAfterKey? : Nat → Bool → Layout → Option Layout
  | 0, _, _ => none
  | bound + 1, skipped, layout =>
      match layout.cursor.rest with
      | ' ' :: _ =>
          skipAfterKey? bound true { layout with cursor := layout.cursor.skipBlanks 1 }
      | '#' :: _ => skipAfterKey? bound skipped { layout with cursor := layout.cursor.skipComment }
      | '\t' :: _ => none
      | rest =>
          if rest ≠ [] ∧ endsLine rest then
            skipAfterKey? bound true layout.skipBreak
          else if skipped then
            some layout
          else
            none

/-! ## Tokens by their first characters -/

/-- A mark of a document ends all blocks. -/
def readDocumentMark? (layout : Layout) : Option Layout := do
  let isStart := startsWithMarks '-' layout.cursor.rest
  let layout ← (layout.closeBlocks (-1)).dropKey?
  let layout := (layout.allowKey false).skipMarks 3
  if isStart then
    some (layout.push .documentStart)
  else
    let layout ← (layout.push .documentEnd).skipInLine?
    if endsLine layout.cursor.rest then some layout else none

def readFlowStart? (token : Token) (layout : Layout) : Option Layout := do
  let layout ← layout.noteKey.addColumn.enterFlow?
  let layout := (layout.allowKey true).skipMarks 1
  let layout :=
    if token = .flowTableStart then { layout with tableStarted := true } else layout
  (layout.push token).skipInLine?

def readFlowEnd? (token : Token) (layout : Layout) : Option Layout := do
  let layout := ((← layout.dropKey?).leaveFlow.allowKey false).closePair
  let layout ← (layout.skipMarks 1).skipInLine?
  let layout := layout.push token
  some (if layout.inFlow then { layout with colonIndex := layout.cursor.index } else layout)

def readFlowEntry? (layout : Layout) : Option Layout := do
  let layout := ((← layout.dropKey?).allowKey true).closePair
  ((layout.skipMarks 1).push .flowEntry).skipInLine?

/-- A dash starts a list at its column, or goes on with one. After a tab no second dash may
follow. -/
def readBlockEntry? (layout : Layout) : Option Layout :=
  if layout.inFlow || !layout.keyAllowed then
    none
  else do
    let layout := (layout.skipMarks 1).openBlock layout.column layout.count .blockListStart
    let hasTab := layout.cursor.blanks.contains '\t'
    let layout ← layout.skipInLine?
    match layout.cursor.rest with
    | '-' :: rest => if hasTab && endsWord rest then none else pure ()
    | _ => pure ()
    let asksForColumn :=
      match layout.cursor.rest with
      | [] => false
      | c :: _ => isBreak c || isFlowMark c
    let layout := if asksForColumn then layout.addColumn else layout
    some (((← layout.dropKey?).allowKey true).push .blockEntry)

/-- A question mark starts a key that need not stand on one line. -/
def readKey? (bound : Nat) (layout : Layout) : Option Layout := do
  let layout ←
    if layout.inFlow then
      some { layout with tableStarted := true }
    else if layout.keyAllowed then
      some (layout.openBlock layout.column layout.count .blockTableStart)
    else
      none
  let layout := (← layout.dropKey?).allowKey !layout.inFlow
  let layout ← skipAfterKey? bound false (layout.skipMarks 1)
  some (layout.push .key)

/-- Whether a tab after a colon may not stand before `c`. -/
def clashesWithTab (c : Char) : Bool :=
  c.isAlphanum || c = '_' || c = '-'

/-- Skips a colon. A tab after it needs a space beside it before a word. -/
def skipColon? (layout : Layout) : Option Layout :=
  let layout := layout.skipMarks 1
  match layout.cursor.rest with
  | '\t' :: _ => do
      let hasSpace := layout.cursor.blanks.contains ' '
      let layout ← layout.skipInLine?
      if !hasSpace && (layout.cursor.rest.head?).any clashesWithTab then none else some layout
  | _ => some layout

/-- A colon makes a key of what stands before it. Without such a thing the key is empty, or was
marked. -/
def readValue? (layout : Layout) : Option Layout := do
  let column := layout.column
  let line := layout.cursor.line
  let startsPair := layout.inFlow && !layout.tableStarted
  let layout ← skipColon? { layout with pairOpen := startsPair }
  match layout.key with
  | some key =>
      if startsPair ∧ key.line < line then
        none
      else
        let layout := layout.insertAt key.position .key
        let layout :=
          if startsPair then layout.insertAt key.position .flowTableStart else layout
        let layout := (layout.openBlock key.column key.position .blockTableStart).addColumn
        some (({ layout with key := none }.allowKey false).push .value)
  | none =>
      let layout := if startsPair then layout.push .flowTableStart else layout
      if layout.inFlow then
        some ((layout.allowKey false).push .value)
      else if layout.keyAllowed then
        let layout := (layout.openBlock column layout.count .blockTableStart).addColumn
        some ((layout.allowKey true).push .value)
      else
        none

/-- A quoted scalar. On its line only a comment, the colon of a key or, in brackets and braces, one
of their marks may follow. -/
def readQuoted? (quote : Char) (bound : Nat) (layout : Layout) : Option Layout := do
  let line := layout.cursor.line
  let layout := layout.noteKey.allowKey false
  let (text, cursor) ← quoted? quote layout.indent bound layout.cursor
  let layout ← { layout with cursor }.skipInLine?
  let isEnded :=
    match layout.cursor.rest with
    | [] => true
    | ':' :: _ => layout.inFlow || line = layout.cursor.line
    | c :: _ => isBreak c || (layout.inFlow && (c = ',' || c = ']' || c = '\x7d'))
  if isEnded then
    let layout ← skipToToken? bound layout
    some ({ layout with colonIndex := layout.cursor.index }.push (.scalar (.quoted text)))
  else
    none

/-- A plain scalar. After one that went on to a new line a key may stand. -/
def readPlain? (bound : Nat) (layout : Layout) : Option Layout := do
  let layout := (layout.noteKey.allowKey false).dropColumn
  let (text, cursor) ← plain? layout.inFlow (layout.indent + 1) bound layout.cursor
  some (({ layout with cursor }.allowKey cursor.inMargin).push (.scalar (.plain text)))

/-! ## Steps -/

/-- Whether a colon with `rest` after it stands between a key and its value. -/
def isColon (layout : Layout) (rest : List Char) : Bool :=
  endsWord rest
    || (layout.inFlow && (atFlowMark rest || layout.cursor.index = layout.colonIndex))

/-- Reads the token that starts with `c`. -/
def readToken? (bound : Nat) (c : Char) (rest : List Char) (layout : Layout) : Option Layout :=
  match c with
  | '[' => layout.readFlowStart? .flowListStart
  | '\x7b' => layout.readFlowStart? .flowTableStart
  | ']' => layout.readFlowEnd? .flowListEnd
  | '\x7d' => layout.readFlowEnd? .flowTableEnd
  | ',' => layout.readFlowEntry?
  | '"' | '\x27' => layout.readQuoted? c bound
  | '-' => if endsWord rest then layout.readBlockEntry? else layout.readPlain? bound
  | '?' => if endsWord rest then layout.readKey? bound else layout.readPlain? bound
  | ':' => if layout.isColon rest then layout.readValue? else layout.readPlain? bound
  | '|' | '>' => if layout.inFlow then layout.readPlain? bound else none
  | '&' | '*' | '!' | '%' | '@' | '\x60' => none
  | _ => layout.readPlain? bound

/-- Whether something that has to be a key is still waiting for its colon. -/
def missesColon (layout : Layout) : Bool :=
  (layout.key :: layout.outerKeys).any (·.any PossibleKey.required)

/-- All tokens from here on, for at most `bound` of them read. -/
def tokens? : Nat → Layout → Option (List Token)
  | 0, _ => none
  | bound + 1, layout => do
      let layout ← (← skipToToken? (bound + 1) layout).dropOldKey?
      let layout := layout.closeBlocks layout.column
      match layout.cursor.rest with
      | [] =>
          if layout.missesColon then none else some (layout.closeBlocks (-1)).tokens.reverse
      | c :: rest =>
          if layout.cursor.atDocumentMark then
            tokens? bound (← layout.readDocumentMark?)
          else if (layout.column : Int) < layout.indent then
            none
          else
            tokens? bound (← layout.readToken? bound c rest)

end Layout

/-- The tokens of a text. -/
def tokensOf? (text : String) : Option (List Token) :=
  let text := text.toList
  Layout.tokens? (text.length + 2) (.start text)

end CatalogFilter.Yaml
