/-!
# Paths

A path is a text of names with slashes between them. The file name of a path is its last name, and
the extension of a file name is what follows its last dot, unless the dot comes first. What stands
before that dot is its stem.
-/

namespace CatalogFilter.Path

/-- The names on a path, those that stay or go up among them. -/
def names (path : String) : List String :=
  (path.splitOn "/").filter (· ≠ "")

/-- Whether a path starts at the root. -/
def isRooted (path : String) : Bool :=
  path.startsWith "/"

/-- Whether a path can only be that of a folder. -/
def endsInSlash (path : String) : Bool :=
  path.endsWith "/"

/-- The bytes that a name may take. -/
def longestName : Nat :=
  255

/-- The bytes that a path may take. -/
def longestPath : Nat :=
  4095

/-! ## File names -/

/-- The characters of a file name before its last dot and those after it. -/
def splitName (name : List Char) : List Char × Option (List Char) :=
  match name.reverse.dropWhile (· ≠ '.') with
  | _ :: c :: before => ((c :: before).reverse, some (name.reverse.takeWhile (· ≠ '.')).reverse)
  | _ => (name, none)

def extension? (name : String) : Option String :=
  (splitName name.toList).2.map String.ofList

def stem (name : String) : String :=
  String.ofList (splitName name.toList).1

/-- The folders before the file name of a path, and the file name. Dots at the end stay where they
are; a path that goes up at its end has no file name. -/
def split? (path : String) : Option (List String × String) :=
  match (names path).reverse.dropWhile (· = ".") with
  | [] => none
  | last :: before => if last = ".." then none else some (before.reverse, last)

def fileName? (path : String) : Option String :=
  (split? path).map Prod.snd

/-- The path with this extension in place of the one that its file name has. -/
def withExtension? (path extension : String) : Option String :=
  (split? path).map fun (folders, name) =>
    (if isRooted path then "/" else "")
      ++ "/".intercalate (folders ++ [stem name ++ "." ++ extension])

end CatalogFilter.Path
