/-!
# JSON values
-/

namespace CatalogFilter

/-- A number of a document: a whole number in the range of a 64-bit word, signed or not, or a
double. -/
inductive JsonNumber where
  | integer (value : Int)
  | real (value : Float)
deriving DecidableEq

/-- A value. The fields of an object are in the order of their names, each name once. -/
inductive Json where
  | null
  | boolean (value : Bool)
  | number (value : JsonNumber)
  | string (value : String)
  | array (items : List Json)
  | object (fields : List (String × Json))

namespace Json

/-- The kinds of value. -/
inductive Kind where
  | null
  | boolean
  | number
  | string
  | array
  | object
deriving DecidableEq, Repr

def Kind.name : Kind → String
  | .null => "null"
  | .boolean => "boolean"
  | .number => "number"
  | .string => "string"
  | .array => "array"
  | .object => "object"

def kind : Json → Kind
  | .null => .null
  | .boolean _ => .boolean
  | .number _ => .number
  | .string _ => .string
  | .array _ => .array
  | .object _ => .object

end Json

end CatalogFilter
