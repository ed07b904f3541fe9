import Remedy.Rule.Error
import Remedy.Term.Parser
/-!
# Query.Error — why a query ends without an answer

A goal that merely has no solution is no error.  A query fails when an expression has no value, when a predicate of
the application fails or takes too long, when the query is cancelled or takes too many steps, and when a goal cannot
be run at all.
-/
namespace Remedy

/-- The kind of value that a predicate asks of an argument. -/
inductive Wanted
  | boolean
  | timespan
  | integer
  deriving DecidableEq

def Wanted.name : Wanted → String
  | .boolean => "a boolean"
  | .timespan => "a timespan (hh:mm:ss)"
  | .integer => "an integer"

/-- Why a goal cannot be run. -/
inductive GoalCause
  | notSyntax (cause : SyntaxCause)
  | notACall
  | notAFact
  | notGround
  | badArgument (name : String) (wanted : Wanted) (got : Value)
  | refused (reason : String)

def GoalCause.message : GoalCause → String
  | .notSyntax cause => cause.message
  | .notACall => "not a predicate call"
  | .notAFact => "expected a fact"
  | .notGround => "asserted facts must be ground"
  | .badArgument name wanted got => name ++ " must be " ++ wanted.name ++ ", got " ++ got.display
  | .refused reason => reason

/-- **Why a query fails.** -/
inductive QueryError
  | expression (e : Expr.EvalError)
  | predicate (name message : String)
  | cancelled
  | invalidGoal (goal : String) (cause : GoalCause)
  | stepLimit (limit : Nat)
  | timeout (name : String) (millis : Nat)

def QueryError.message : QueryError → String
  | .expression e => e.message
  | .predicate name message => "Predicate '" ++ name ++ "' failed: " ++ message
  | .cancelled => "Query was cancelled"
  | .invalidGoal goal cause => "Invalid goal `" ++ goal ++ "`: " ++ cause.message
  | .stepLimit limit => "Query exceeded the step limit of " ++ toString limit
  | .timeout name millis => "Predicate '" ++ name ++ "' timed out after " ++ toString millis ++ "ms"

/-! ## Why nothing can be said about a goal

The rules or the goal do not compile, or the query fails.
-/

/-- **What went wrong.** -/
inductive Failure
  | compile (e : CompileError)
  | query (e : QueryError)

namespace Failure

def message : Failure → String
  | .compile e => e.message
  | .query e => e.message

def isCompile : Failure → Bool
  | .compile _ => true
  | .query _ => false

def isCancelled : Failure → Bool
  | .query .cancelled => true
  | _ => false

/-- The same query may succeed at another time. -/
def isRetryable : Failure → Bool
  | .query (.timeout _ _) => true
  | _ => false

end Failure

end Remedy
