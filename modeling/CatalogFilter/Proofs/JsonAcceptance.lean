import CatalogFilter.Proofs.JsonReading

/-!
# What is accepted as an object

The other direction: a text that is read is a text of the grammar. The reader keeps the open
containers on a stack, so what it has in hand at any time is only the end of a document. From each
of its states it takes the form that has to come next, and the induction is on the pieces that are
left.
-/

namespace CatalogFilter.Json

/-- The pieces that a text is laid out as lead from this state to a result. -/
structure Finishes (stack : List Frame) (expected : Expected) (pieces : List Piece)
    (text : List Char) (result : Json) : Prop where
  laid : Laid pieces text
  builds : ofPieces? stack expected pieces = some result

/-! ## One piece -/

section Steps

variable {stack : List Frame} {expected : Expected} {piece : Piece} {pieces : List Piece}
variable {text : List Char} {result : Json}

end Steps

/-! ## What a piece may do -/

section Transitions

variable {stack stack' : List Frame} {expected' : Expected} {piece : Piece} {value : Json}

end Transitions

/-! ## The next value -/

section Containers

variable {bound : Nat} {stack : List Frame} {pieces : List Piece} {text : List Char} {result : Json}

end Containers

theorem parse?_eq_some_iff {text : String} {value : Json} :
    parse? text = some value ↔ ∃ pieces, Finishes [] .value pieces text.toList value := by
  simp only [parse?, Option.bind_eq_bind, Option.bind_eq_some_iff, pieces?_eq_some_iff]
  constructor
  · rintro ⟨pieces, laid, builds⟩
    exact ⟨pieces, laid, builds⟩
  · rintro ⟨pieces, laid, builds⟩
    exact ⟨pieces, laid, builds⟩

end CatalogFilter.Json
