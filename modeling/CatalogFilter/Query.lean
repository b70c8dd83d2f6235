import CatalogFilter.Evaluation
import CatalogFilter.Expr.OfTokens
import CatalogFilter.Token.Scan

/-!
# Queries

A query is a source text that has been read under a profile. It keeps its source, and it can be
asked of many subjects.
-/

namespace CatalogFilter

/-- A failure at one of the three stages of a query. -/
inductive EngineError where
  | lexical (error : LexicalError)
  | parse (error : ParseError)
  | evaluation (error : EvalError)
deriving DecidableEq, Repr

namespace EngineError

/-- The text of the stage's own error. -/
def innerMessage : EngineError → String
  | .lexical error => error.message
  | .parse error => error.message
  | .evaluation error => error.message

/-- The text of the error with its stage in front. -/
def message (error : EngineError) : String :=
  match error with
  | .lexical _ => "tokenize error: " ++ error.innerMessage
  | .parse _ => "parse error: " ++ error.innerMessage
  | .evaluation _ => "evaluation error: " ++ error.innerMessage

end EngineError

/-- Answers of a stage can be compared, so that what a query does can be decided by running it. -/
instance decidableEqExcept {ε α : Type} [DecidableEq ε] [DecidableEq α] :
    DecidableEq (Except ε α)
  | .ok first, .ok second => decidable_of_iff (first = second) (by simp)
  | .error first, .error second => decidable_of_iff (first = second) (by simp)
  | .ok _, .error _ | .error _, .ok _ => isFalse nofun

structure Query where
  source : String
  profile : Profile
  root : Expr
deriving DecidableEq, Repr

namespace Query

/-- Reads a source text under a profile. -/
def compile (profile : Profile) (source : String) : Except EngineError Query :=
  match Token.scan profile source with
  | .error error => .error (.lexical error)
  | .ok tokens =>
      match Expr.ofTokens profile tokens with
      | .error error => .error (.parse error)
      | .ok root => .ok ⟨source, profile, root⟩

/-- An evaluator for this query's trees. -/
def evaluator (query : Query) (subject : Subject) : Evaluator :=
  .start query.profile subject

def evaluate (query : Query) (subject : Subject) : Except EvalError Bool :=
  query.root.evaluate query.profile subject

/-- Compiles a source text and asks it of one subject. -/
def run (profile : Profile) (source : String) (subject : Subject) : Except EngineError Bool :=
  match compile profile source with
  | .error error => .error error
  | .ok query => (query.evaluate subject).mapError .evaluation

end Query

end CatalogFilter
