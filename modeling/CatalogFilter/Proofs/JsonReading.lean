import CatalogFilter.Proofs.JsonLayout

/-!
# Reading documents

A text is read as an object exactly when the grammar makes it one, within the limits of the reader
and nested no deeper than the reader goes. What a form of the grammar comes to is said once for
every stack of open containers below it, and so it does not matter where in a text the form stands.
-/

namespace CatalogFilter.Json

/-! ## Forms as pieces -/

/-- The text is these pieces, wherever it stands in front of something that is laid out. -/
def LaysOut (text : List Char) (pieces : List Piece) : Prop :=
  ∀ later rest, NoNumberAhead rest → Laid later rest → Laid (pieces ++ later) (text ++ rest)

section LaysOut

variable {piece : Piece} {pieces later : List Piece} {gap spelled text rest : List Char}

/-- A piece that ends anywhere can stand in front of anything. -/
theorem LaysOut.cons
    (spells : piece.Spelled spelled) (ends : ∀ rest, piece.EndsBefore rest)
    (laysOut : LaysOut text pieces) :
    LaysOut (spelled ++ text) (piece :: pieces) := by
  intro later rest ahead laid
  rw [List.append_assoc]
  exact (laysOut later rest ahead laid).cons spells (ends _)

theorem LaysOut.append
    (first : LaysOut text pieces) (second : LaysOut rest later)
    (ahead : ∀ others, NoNumberAhead others → NoNumberAhead (rest ++ others)) :
    LaysOut (text ++ rest) (pieces ++ later) := by
  intro more others othersAhead laid
  rw [List.append_assoc, List.append_assoc]
  exact first _ _ (ahead others othersAhead) (second more others othersAhead laid)

theorem LaysOut.replicate
    {c : Char} (spells : piece.Spelled [c]) (ends : ∀ rest, piece.EndsBefore rest)
    (laysOut : LaysOut text pieces) (count : Nat) :
    LaysOut (List.replicate count c ++ text) (List.replicate count piece ++ pieces) := by
  induction count with
  | zero =>
      exact laysOut
  | succ count inductionHypothesis =>
      rw [List.replicate_succ, List.replicate_succ, List.cons_append, List.cons_append]
      exact .cons spells ends inductionHypothesis

end LaysOut

/-! ## Pieces as values -/

/-- The pieces make up this value, whatever containers are open and whatever follows. -/
def Builds (pieces : List Piece) (nesting : Nat) (value : Json) : Prop :=
  ∀ stack more, stack.length + nesting ≤ maxNesting →
    ofPieces? stack .value (pieces ++ more) = ofPieces? stack (.afterValue value) more

/-- The pieces and a closing bracket make up the rest of an array. -/
def BuildsItems (pieces : List Piece) (nesting : Nat) (items : List Json) : Prop :=
  ∀ stack before more, stack.length + nesting < maxNesting →
    ofPieces? (.array before :: stack) .value (pieces ++ .closeBracket :: more) =
      ofPieces? stack (.afterValue (.array (before.reverse ++ items))) more

/-- The pieces and a closing brace make up the rest of an object. -/
def BuildsFields (pieces : List Piece) (nesting : Nat) (fields : List (String × Json)) : Prop :=
  ∀ stack before more, stack.length + nesting < maxNesting →
    ofPieces? stack (.name before) (pieces ++ .closeBrace :: more) =
      ofPieces? stack (.afterValue (.object (Table.ofPairs (before.reverse ++ fields)))) more

/-- The first item of an array can begin with these pieces. -/
def OpensItem (pieces : List Piece) : Prop :=
  ∀ stack more,
    ofPieces? stack .firstItem (pieces ++ more) =
      ofPieces? (.array [] :: stack) .value (pieces ++ more)

/-- The first field of an object can begin with these pieces. -/
def OpensField (pieces : List Piece) : Prop :=
  ∀ stack more,
    ofPieces? stack .firstName (pieces ++ more) = ofPieces? stack (.name []) (pieces ++ more)

section Building

variable {pieces others : List Piece} {nesting othersNesting : Nat} {value : Json}
variable {items : List Json} {name : String} {fields : List (String × Json)}

theorem OpensItem.append (opens : OpensItem pieces) : OpensItem (pieces ++ others) := by
  intro stack more
  rw [List.append_assoc]
  exact opens stack (others ++ more)

end Building

/-! ## Every form is read -/

/-- What it means for the reader to take a form. -/
def Reads : Form → List Char → Nat → Prop
  | .value, text, nesting | .element, text, nesting =>
      ∃ pieces value, LaysOut text pieces ∧ OpensItem pieces ∧ Builds pieces nesting value
  | .object, text, nesting =>
      ∃ pieces fields, LaysOut text pieces ∧ OpensItem pieces ∧
        Builds pieces nesting (.object fields)
  | .items, text, nesting =>
      ∃ pieces items, LaysOut text pieces ∧ OpensItem pieces ∧ BuildsItems pieces nesting items
  | .fields, text, nesting =>
      ∃ pieces fields, LaysOut text pieces ∧ OpensField pieces ∧ BuildsFields pieces nesting fields

end CatalogFilter.Json
