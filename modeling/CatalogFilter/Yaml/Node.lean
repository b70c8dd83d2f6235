import CatalogFilter.Yaml.Token

/-!
# From YAML tokens to a setting

A node is a scalar, a list or a table. Only a scalar names a value in a table, and where a value is
missing there is nothing. The items of a list that is the value of a key need no block of their own.
-/

namespace CatalogFilter.Yaml

/-- A name at the front of some tokens. -/
def name? : List Token → Option (Name × List Token)
  | .scalar scalar :: rest => scalar.name?.map (·, rest)
  | _ => none

/-- Whether an entry of a block stops here, so that nothing is its value. -/
def endsBlockValue : List Token → Bool
  | .key :: _ | .value :: _ | .blockEnd :: _ => true
  | _ => false

/-- Whether an item in a block list stops here. -/
def endsBlockItem : List Token → Bool
  | .blockEntry :: _ | .blockEnd :: _ => true
  | _ => false

/-- Whether a value in brackets or braces stops here. -/
def endsFlowValue (closing : Token) : List Token → Bool
  | token :: _ => token = .flowEntry || token = closing
  | [] => false

/-- Goes on after the comma that has to stand between two items. -/
def afterEntry? (isFirst : Bool) : List Token → Option (List Token)
  | .flowEntry :: rest => some (if isFirst then .flowEntry :: rest else rest)
  | tokens => if isFirst then some tokens else none

mutual

/-- The node at the front, and the tokens after it. In brackets and braces no block can start, and
`asValue` says whether the items of a list may stand without a block. `bound` bounds the steps. -/
def node? : Nat → Bool → Bool → List Token → Option (Setting × List Token)
  | 0, _, _, _ => none
  | bound + 1, inBlock, asValue, tokens =>
      match tokens with
      | .scalar scalar :: rest => scalar.setting?.map (·, rest)
      | .flowListStart :: rest => flowItems? bound [] true rest
      | .flowTableStart :: rest => flowFields? bound [] true rest
      | .blockListStart :: rest => if inBlock then blockItems? bound [] rest else none
      | .blockTableStart :: rest => if inBlock then blockFields? bound [] rest else none
      | .blockEntry :: rest =>
          if asValue then bareItems? bound [] (.blockEntry :: rest) else none
      | _ => none

/-- The items of a block list after those in `items`, the last one first. -/
def blockItems? : Nat → List Setting → List Token → Option (Setting × List Token)
  | 0, _, _ => none
  | bound + 1, items, tokens =>
      match tokens with
      | .blockEnd :: rest => some (.list items.reverse, rest)
      | .blockEntry :: rest =>
          if endsBlockItem rest then
            blockItems? bound (.nothing :: items) rest
          else
            match node? bound true false rest with
            | none => none
            | some (item, rest) => blockItems? bound (item :: items) rest
      | _ => none

/-- The items of a list without a block of its own. -/
def bareItems? : Nat → List Setting → List Token → Option (Setting × List Token)
  | 0, _, _ => none
  | bound + 1, items, tokens =>
      match tokens with
      | .blockEntry :: rest =>
          if endsBlockItem rest || endsBlockValue rest then
            bareItems? bound (.nothing :: items) rest
          else
            match node? bound true false rest with
            | none => none
            | some (item, rest) => bareItems? bound (item :: items) rest
      | rest => some (.list items.reverse, rest)

/-- The fields of a block table after those in `fields`, the last one first. -/
def blockFields? : Nat → List (Name × Setting) → List Token → Option (Setting × List Token)
  | 0, _, _ => none
  | bound + 1, fields, tokens =>
      match tokens with
      | .blockEnd :: rest => (tableOf? fields).map (·, rest)
      | .key :: rest =>
          match name? rest with
          | none => none
          | some (name, .value :: rest) =>
              if endsBlockValue rest then
                blockFields? bound ((name, .nothing) :: fields) rest
              else
                match node? bound true true rest with
                | none => none
                | some (value, rest) => blockFields? bound ((name, value) :: fields) rest
          | some (name, rest) => blockFields? bound ((name, .nothing) :: fields) rest
      | _ => none

/-- The items in brackets after those in `items`, the last one first. A pair is a table of its
own. -/
def flowItems? : Nat → List Setting → Bool → List Token → Option (Setting × List Token)
  | 0, _, _, _ => none
  | bound + 1, items, isFirst, tokens =>
      match tokens with
      | .flowListEnd :: rest => some (.list items.reverse, rest)
      | tokens =>
          match afterEntry? isFirst tokens with
          | none => none
          | some (.flowListEnd :: rest) => some (.list items.reverse, rest)
          | some (.key :: rest) =>
              match name? rest with
              | none => none
              | some (name, rest) =>
                  match flowValue? bound .flowListEnd rest with
                  | none => none
                  | some (value, rest) =>
                      match tableOf? [(name, value)] with
                      | none => none
                      | some pair => flowItems? bound (pair :: items) false rest
          | some rest =>
              match node? bound false false rest with
              | none => none
              | some (item, rest) => flowItems? bound (item :: items) false rest

/-- The fields in braces after those in `fields`, the last one first. -/
def flowFields? : Nat → List (Name × Setting) → Bool → List Token → Option (Setting × List Token)
  | 0, _, _, _ => none
  | bound + 1, fields, isFirst, tokens =>
      match tokens with
      | .flowTableEnd :: rest => (tableOf? fields).map (·, rest)
      | tokens =>
          match afterEntry? isFirst tokens with
          | none => none
          | some (.flowTableEnd :: rest) => (tableOf? fields).map (·, rest)
          | some (.key :: rest) =>
              match name? rest with
              | none => none
              | some (name, rest) =>
                  match flowValue? bound .flowTableEnd rest with
                  | none => none
                  | some (value, rest) =>
                      flowFields? bound ((name, value) :: fields) false rest
          | some rest =>
              match name? rest with
              | none => none
              | some (name, rest) =>
                  flowFields? bound ((name, .nothing) :: fields) false rest

/-- The value after a key in brackets or braces, up to the next comma or the closing mark. -/
def flowValue? : Nat → Token → List Token → Option (Setting × List Token)
  | 0, _, _ => none
  | bound + 1, closing, tokens =>
      match tokens with
      | .value :: rest =>
          if endsFlowValue closing rest then
            some (.nothing, rest)
          else
            node? bound false false rest
      | rest => some (.nothing, rest)

end

end CatalogFilter.Yaml
