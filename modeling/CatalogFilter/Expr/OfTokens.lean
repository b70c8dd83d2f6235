import CatalogFilter.Expr
import CatalogFilter.Expr.ParseError
import CatalogFilter.Token

/-!
# From tokens to an expression

An expression starts with a literal, a prefix operator or a group, and grows to the left: while the
token ahead binds more tightly than a threshold, it takes what was read so far as its left operand
and reads a right one. `not` reads its operand above its own binding power, and so do `has`,
`lacks` and the comparisons, whose operands have to be literals. `and` and `or` bind alike and
group to the left.

A cursor carries the tokens that are left, the nesting at which it stands and the deepest nesting
that it has seen. Every step gives back a cursor, whether it succeeds or not. The steps are written
for any bound `limit` on the depth of a tree; a query is read with `maxDepth`.
-/

namespace CatalogFilter.Expr

/-- Where reading stands. -/
structure Cursor where
  rest : List Token
  nesting : Nat
  peak : Nat
deriving DecidableEq, Repr

namespace Cursor

/-- The cursor before the first token. -/
def start (tokens : List Token) : Cursor :=
  ⟨tokens, 0, 0⟩

/-- One level further in. -/
def enter (cursor : Cursor) : Cursor :=
  { cursor with
    nesting := cursor.nesting + 1
    peak := max cursor.peak (cursor.nesting + 1) }

/-- One level further out. -/
def leave (cursor : Cursor) : Cursor :=
  { cursor with nesting := cursor.nesting - 1 }

/-- The offset of the token ahead; with no token ahead it is 0. -/
def offset (cursor : Cursor) : Nat :=
  match cursor.rest with
  | [] => 0
  | token :: _ => token.offset

end Cursor

/-- An expression with its depth, kept while the tree grows. -/
structure Measured where
  expr : Expr
  depth : Nat
deriving DecidableEq, Repr

/-- What a step answers, and where reading stands after it. -/
abbrev Reading (α : Type) :=
  Except ParseError α × Cursor

namespace Reading

/-- Goes on after a success; a failure stays where it is. -/
def andThen {α β : Type} (reading : Reading α) (next : α → Cursor → Reading β) : Reading β :=
  match reading with
  | (.ok value, cursor) => next value cursor
  | (.error error, cursor) => (.error error, cursor)

@[simp]
theorem andThen_ok
    {α β : Type} (value : α) (cursor : Cursor) (next : α → Cursor → Reading β) :
    andThen (.ok value, cursor) next = next value cursor :=
  rfl

@[simp]
theorem andThen_error
    {α β : Type} (error : ParseError) (cursor : Cursor) (next : α → Cursor → Reading β) :
    andThen (.error error, cursor) next = (.error error, cursor) :=
  rfl

end Reading

/-- The depth of a node above operands of depth `below`. -/
def deepen (limit below offset : Nat) : Except ParseError Nat :=
  if limit ≤ below then .error (.tooDeep offset) else .ok (below + 1)

/-- The node of a prefix operator. -/
def unaryNode (limit : Nat) (op : Operator) (offset : Nat) (operand : Measured) :
    Except ParseError Measured :=
  (deepen limit operand.depth offset).map fun depth => ⟨.unary op operand.expr, depth⟩

/-- The node of an infix operator. -/
def binaryNode (limit : Nat) (op : Operator) (offset : Nat) (left right : Measured) :
    Except ParseError Measured :=
  (deepen limit (max left.depth right.depth) offset).map fun depth =>
    ⟨.binary op left.expr right.expr, depth⟩

/-- Passes on a literal; `op` takes no other operand. -/
def requireLiteral (op : Operator) (operand : Measured) : Except ParseError Measured :=
  if operand.expr.isLiteral then .ok operand else .error (.expectedLiteral op)

/-- Reads the closing parenthesis of the group that was opened at `offset`. -/
def closeGroup (offset : Nat) (inner : Measured) (cursor : Cursor) : Reading Measured :=
  match cursor.rest with
  | ⟨.operator .closeParen, _, _⟩ :: rest => (.ok inner, { cursor with rest })
  | _ => (.error (.unmatchedParen offset), cursor)

/-- Reads what starts with `token`. `read` reads an expression one level further in, above a
threshold. -/
def readStart (limit : Nat) (profile : Profile) (read : Nat → Cursor → Reading Measured)
    (token : Token) (cursor : Cursor) : Reading Measured :=
  match token.kind with
  | .literal => (.ok ⟨.literal token.text, 1⟩, cursor)
  | .finish => (.error .unexpectedEnd, cursor)
  | .operator op =>
      if profile.supports op then
        match op with
        | .not =>
            (read op.bindingPower cursor).andThen fun operand cursor =>
              (unaryNode limit op token.offset operand, cursor)
        | .has | .lacks =>
            (read op.bindingPower cursor).andThen fun operand cursor =>
              (requireLiteral op operand >>= unaryNode limit op token.offset, cursor)
        | .openParen =>
            (read op.bindingPower cursor).andThen (closeGroup token.offset)
        | _ => (.error (.unexpectedToken token.text token.offset), cursor)
      else
        (.error (.unsupportedOperator op profile), cursor)

/-- Reads what `token` makes of the expression before it. -/
def readMore (limit : Nat) (profile : Profile) (read : Nat → Cursor → Reading Measured)
    (token : Token) (left : Measured) (cursor : Cursor) : Reading Measured :=
  match token.kind with
  | .literal | .finish => (.error (.unexpectedToken token.text token.offset), cursor)
  | .operator op =>
      if profile.supports op then
        match op with
        | .and | .or =>
            (read op.bindingPower cursor).andThen fun right cursor =>
              (binaryNode limit op token.offset left right, cursor)
        | .eq | .ne | .gt | .lt | .ge | .le =>
            match requireLiteral op left with
            | .error error => (.error error, cursor)
            | .ok left =>
                (read op.bindingPower cursor).andThen fun right cursor =>
                  (requireLiteral op right >>= binaryNode limit op token.offset left, cursor)
        | _ => (.error (.unexpectedToken token.text token.offset), cursor)
      else
        (.error (.unsupportedOperator op profile), cursor)

/-- Reads on for as long as the token ahead binds more tightly than `threshold`, for at most
`steps` operators. -/
def readOn (limit : Nat) (profile : Profile) (read : Nat → Cursor → Reading Measured)
    (threshold : Nat) : Nat → Measured → Cursor → Reading Measured
  | 0, left, cursor => (.ok left, cursor)
  | steps + 1, left, cursor =>
      match cursor.rest with
      | [] => (.ok left, cursor)
      | token :: rest =>
          if threshold < token.bindingPower then
            (readMore limit profile read token left { cursor with rest }).andThen
              (readOn limit profile read threshold steps)
          else
            (.ok left, cursor)

/-- Reads a whole expression at the level of the cursor. No more operators can follow its start
than tokens are left. -/
def readAbove (limit : Nat) (profile : Profile) (read : Nat → Cursor → Reading Measured)
    (threshold : Nat) (cursor : Cursor) : Reading Measured :=
  match cursor.rest with
  | [] => (.error .unexpectedEnd, cursor)
  | token :: rest =>
      (readStart limit profile read token { cursor with rest }).andThen fun left cursor =>
        readOn limit profile read threshold cursor.rest.length left cursor

/-- Reads an expression one level further in, with `levels` levels left. -/
def readWithin (limit : Nat) (profile : Profile) : Nat → Nat → Cursor → Reading Measured
  | 0, _, cursor => (.error (.tooDeep cursor.offset), cursor)
  | levels + 1, threshold, cursor =>
      let reading := readAbove limit profile (readWithin limit profile levels) threshold cursor.enter
      (reading.1, reading.2.leave)

/-- Reads an expression whose operators bind more tightly than `threshold`. -/
def read (profile : Profile) (threshold : Nat) (cursor : Cursor) : Reading Measured :=
  readWithin maxDepth profile (maxDepth - cursor.nesting) threshold cursor

/-- The expression that all the tokens up to the first closing token form. -/
def ofTokens (profile : Profile) (tokens : List Token) : Except ParseError Expr :=
  match read profile 0 (.start tokens) with
  | (.error error, _) => .error error
  | (.ok result, cursor) =>
      match cursor.rest with
      | [] => .ok result.expr
      | token :: _ =>
          if token.kind = .finish then
            .ok result.expr
          else
            .error (.trailingInput token.text token.offset)

end CatalogFilter.Expr
