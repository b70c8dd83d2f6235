import CatalogFilter.Yaml.Cursor

/-!
# Plain scalars in YAML

A plain scalar is written without quotes. It ends before a colon that ends a word and before a
comment; inside brackets and braces it also ends before their marks. It may go on over further
lines, each of them to the right of what the scalar belongs to.
-/

namespace CatalogFilter.Yaml

/-- Whether a mark of lists and tables in brackets and braces stands here. -/
def atFlowMark : List Char → Bool
  | [] => false
  | c :: _ => isFlowMark c

/-- Whether the character ahead is one of a plain scalar. -/
def continuesPlain (inFlow : Bool) : List Char → Bool
  | [] => false
  | ':' :: rest => !endsWord rest && !(inFlow && atFlowMark rest)
  | c :: _ => !(isBlank c || isBreak c) && !(inFlow && isFlowMark c)

/-- The characters of a plain scalar up to the next gap, put on `taken`, which holds the last one
first, and their number beyond `count`. -/
def plainRun (inFlow : Bool) (taken : List Char) (count : Nat) :
    List Char → List Char × Nat
  | [] => (taken, count)
  | c :: rest =>
      if continuesPlain inFlow (c :: rest) then
        plainRun inFlow (c :: taken) (count + 1) rest
      else
        (taken, count)

/-- Whether a dash stands here that only a block may hold. -/
def atStrayDash : List Char → Bool
  | '-' :: rest => atFlowMark rest
  | _ => false

/-- The runs of a plain scalar after those in `taken`, last character first, with the gap before the
next one. The scalar may not go on left of the column `margin`. `bound` bounds the runs and the
steps in each gap. -/
def plainRuns? (inFlow : Bool) (margin : Int) (bound : Nat) :
    Nat → List Char → List Char → Cursor → Option (List Char × Cursor)
  | 0, taken, _, cursor => some (taken, cursor)
  | count + 1, taken, gap, cursor =>
      if cursor.atDocumentMark || cursor.rest.head? = some '#' then
        some (taken, cursor)
      else if inFlow && atStrayDash cursor.rest then
        none
      else
        let (taken, cursor) :=
          if continuesPlain inFlow cursor.rest then
            let (taken, length) := plainRun inFlow (gap.reverse ++ taken) 0 cursor.rest
            (taken, cursor.skipMarks length)
          else
            (taken, cursor)
        if cursor.rest = [] || !endsWord cursor.rest then
          some (taken, cursor)
        else
          match Gap.extend? margin emptyLine? bound ⟨[], 0, false⟩ cursor with
          | none => none
          | some (gap, cursor) =>
              if !inFlow && (cursor.column : Int) < margin then
                some (taken, cursor)
              else
                plainRuns? inFlow margin bound count taken gap.text cursor

/-- The plain scalar ahead. -/
def plain? (inFlow : Bool) (margin : Int) (bound : Nat) (cursor : Cursor) :
    Option (String × Cursor) :=
  if inFlow && (cursor.column : Int) < margin then
    none
  else
    (plainRuns? inFlow margin bound bound [] [] cursor).map fun (taken, after) =>
      (String.ofList taken.reverse, after)

end CatalogFilter.Yaml
