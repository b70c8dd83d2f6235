import CatalogFilter.Operator

/-!
# Profiles

A profile fixes what a query may be written with and what it is asked of: a text, a set of tags or
a year.
-/

namespace CatalogFilter

inductive Profile where
  /-- The subject is a text; `has x` asks whether `x` occurs in it. -/
  | substring
  /-- The subject is a set of tags; `has x` asks whether `x` is one of them. -/
  | setMembership
  /-- The subject is a year; literals are whole numbers or `year`. -/
  | numericYear
deriving DecidableEq, Repr

namespace Profile

def label : Profile → String
  | .substring => "substring"
  | .setMembership => "set_membership"
  | .numericYear => "numeric_year"

def all : List Profile :=
  [.substring, .setMembership, .numericYear]

/-- The profile with exactly this label. -/
def ofLabel? (label : String) : Option Profile :=
  all.find? (·.label = label)

/-- A name in lowercase ASCII letters with underscores for hyphens. -/
def foldName (name : String) : String :=
  name.map fun c => if c = '-' then '_' else c.toLower

/-- The profile that a user names. Case and the choice of hyphen or underscore do not matter, and
two profiles have a short name. -/
def ofName? (name : String) : Option Profile :=
  match foldName name with
  | "substring" => some .substring
  | "set_membership" | "set" => some .setMembership
  | "numeric_year" | "year" => some .numericYear
  | _ => none

/-- The complaint about a name that no profile has. -/
def unknownNameMessage (name : String) : String :=
  "invalid profile: " ++ name

/-- The operators of the two profiles that look for a literal in the subject. -/
def containmentOperators : List Operator :=
  [.has, .lacks, .not, .and, .or, .openParen, .closeParen]

/-- The operators of the profile that compares numbers. -/
def numericOperators : List Operator :=
  [.not, .and, .or, .eq, .ne, .gt, .lt, .ge, .le, .openParen, .closeParen]

def operators : Profile → List Operator
  | .substring | .setMembership => containmentOperators
  | .numericYear => numericOperators

def supports (profile : Profile) (op : Operator) : Bool :=
  op ∈ profile.operators

/-- Whether comparison symbols can be written at all. -/
def hasComparisons : Profile → Bool
  | .substring | .setMembership => false
  | .numericYear => true

theorem ofLabel?_label (profile : Profile) : ofLabel? profile.label = some profile := by
  cases profile <;> decide

theorem supports_of_isComparison
    {profile : Profile} {op : Operator}
    (comparison : op.isComparison = true) :
    profile.supports op = profile.hasComparisons := by
  cases profile <;> cases op <;> simp_all +decide

end Profile

end CatalogFilter
