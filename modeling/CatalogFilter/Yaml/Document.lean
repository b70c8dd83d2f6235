import CatalogFilter.Yaml.Node
import CatalogFilter.Yaml.Tokens

/-!
# YAML documents

A text holds documents. The start of the first one may go without a mark, and so may the start of
one after the mark of an end. A document without a node is nothing.
-/

namespace CatalogFilter.Yaml

/-- The setting of a document whose start was read, and the tokens after it. -/
def document? (bound : Nat) (isMarked : Bool) (tokens : List Token) :
    Option (Setting × List Token) :=
  match tokens with
  | [] | .documentStart :: _ | .documentEnd :: _ =>
      if isMarked then some (.nothing, tokens) else none
  | _ => node? bound true false tokens

/-- The documents of some tokens after those in `documents`, the last one first. `mayStart` says
whether a document may start without a mark. -/
def documents? : Nat → List Setting → Bool → List Token → Option (List Setting)
  | 0, _, _, _ => none
  | _, documents, _, [] => some documents.reverse
  | bound + 1, documents, _, .documentEnd :: rest =>
      documents? bound documents true rest
  | bound + 1, documents, _, .documentStart :: rest => do
      let (document, rest) ← document? bound true rest
      documents? bound (document :: documents) false rest
  | bound + 1, documents, mayStart, tokens =>
      if mayStart then do
        let (document, rest) ← document? bound false tokens
        documents? bound (document :: documents) false rest
      else
        none

/-- The setting that a text of one document holds; a text without a document is an empty table. -/
def parse? (text : String) : Option Setting := do
  let tokens ← tokensOf? text
  match ← documents? (4 * tokens.length + 4) [] true tokens with
  | [] => some (.table [])
  | [document] => some document
  | _ => none

end CatalogFilter.Yaml
