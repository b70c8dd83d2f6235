import CatalogFilter.Yaml.Scalar

/-!
# Tokens of YAML

A YAML text is a sequence of tokens. The indentation of its lines shows in the tokens that start and
end a block, and a key has a token before it even where only a colon after it tells that it is one.
-/

namespace CatalogFilter.Yaml

inductive Token where
  | documentStart
  | documentEnd
  | blockListStart
  | blockTableStart
  | blockEnd
  /-- A dash. -/
  | blockEntry
  | flowListStart
  | flowListEnd
  | flowTableStart
  | flowTableEnd
  /-- A comma. -/
  | flowEntry
  | key
  /-- A colon. -/
  | value
  | scalar (scalar : Scalar)
deriving DecidableEq, Repr

end CatalogFilter.Yaml
