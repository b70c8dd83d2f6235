import CatalogFilter.Profile

/-!
# Subjects

What a query is asked of: a text, a set of tags or a year. Each profile accepts one of the three.
-/

namespace CatalogFilter

/-- Tags are a set: how often one is listed and in which order does not matter. -/
inductive Subject where
  | text (content : String)
  | tags (members : List String)
  | year (value : Int)
deriving DecidableEq, Repr

/-- The three kinds of subject. -/
inductive SubjectKind where
  | string
  | set
  | number
deriving DecidableEq, Repr

namespace SubjectKind

def name : SubjectKind → String
  | .string => "string"
  | .set => "set"
  | .number => "number"

end SubjectKind

namespace Subject

def kind : Subject → SubjectKind
  | .text _ => .string
  | .tags _ => .set
  | .year _ => .number

end Subject

namespace Profile

/-- The kind of subject that a profile is asked of. -/
def subjectKind : Profile → SubjectKind
  | .substring => .string
  | .setMembership => .set
  | .numericYear => .number

def accepts (profile : Profile) (subject : Subject) : Bool :=
  profile.subjectKind = subject.kind

end Profile

end CatalogFilter
