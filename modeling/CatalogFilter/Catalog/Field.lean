import CatalogFilter.Catalog.Year
import CatalogFilter.Json.Render
import CatalogFilter.Subject

/-!
# From a field to a subject

Each profile makes a subject of its own kind from any field, and from a field that is missing.
-/

namespace CatalogFilter.Catalog

/-- A field as one text. The items of an array stand side by side with a space between. -/
def fieldText : Option Json → String
  | none | some .null => ""
  | some (.array items) => " ".intercalate (items.map Json.text)
  | some value => value.text

/-- A field as a set of tags. A single value is a single tag. -/
def fieldTags : Option Json → List String
  | none | some .null => []
  | some (.array items) => items.map Json.text
  | some value => [value.text]

/-- A field as a year. A whole number out of the range of a signed 64-bit word is no year. -/
def fieldYear : Option Json → Int
  | some (.string text) => yearOf text
  | some (.number (.integer value)) => if value ≤ Text.maxInt64 then value else 0
  | _ => 0

/-- The subject that a profile makes of a field. -/
def subjectOf (profile : Profile) (value : Option Json) : Subject :=
  match profile with
  | .substring => .text (fieldText value)
  | .setMembership => .tags (fieldTags value)
  | .numericYear => .year (fieldYear value)

theorem accepts_subjectOf
    (profile : Profile) (value : Option Json) :
    profile.accepts (subjectOf profile value) = true := by
  cases profile <;> rfl

end CatalogFilter.Catalog
