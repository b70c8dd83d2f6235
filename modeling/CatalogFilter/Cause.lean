/-!
# What stands behind an error

An error has a text of its own. Behind it may stand the text of an error further in, or a failure
of a file.
-/

namespace CatalogFilter

/-- Why a file cannot be read or written. -/
inductive FileFailure where
  | notFound
  | isADirectory
  | notADirectory
  | invalidData
  /-- A name or the whole path is too long. -/
  | nameTooLong
  /-- A path holds a null character. -/
  | malformedPath
deriving DecidableEq, Repr

namespace FileFailure

def message : FileFailure → String
  | .notFound => "no such file or directory"
  | .isADirectory => "is a directory"
  | .notADirectory => "not a directory"
  | .invalidData => "not valid UTF-8"
  | .nameTooLong => "file name too long"
  | .malformedPath => "null character in a path"

end FileFailure

inductive Cause where
  | text (message : String)
  | file (failure : FileFailure)
deriving DecidableEq, Repr

namespace Cause

def message : Cause → String
  | .text message => message
  | .file failure => failure.message

end Cause

end CatalogFilter
