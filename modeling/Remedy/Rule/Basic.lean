import Remedy.Term.Text
import Remedy.Term.VarTable
/-!
# Rule — rules and their goals

A rule has a head and a list of goals.  A goal calls a predicate, compares or computes something, or is the negation
of another goal.  The same type serves for goals as they are written and for goals whose calls have been resolved:
`γ` is what a call knows about the predicate it calls.
-/
namespace Remedy

/-- **A goal.** -/
inductive Goal (γ : Type)
  | call (callee : γ) (call : Call)
  | cut
  | unify (a b : Term)
  | is (target : Term) (e : Expr)
  | test (e : Expr)
  | not (g : Goal γ)

def Goal.display : Goal γ → String
  | .call _ c => c.display
  | .cut => "!"
  | .unify a b => a.display ++ " = " ++ b.display
  | .is t e => t.display ++ " is " ++ e.display
  | .test e => e.display
  | .not g => "not(" ++ g.display ++ ")"

/-- A rule as text, and the line it starts on. -/
structure RuleText where
  text : String
  line : Nat
  deriving DecidableEq

/-- **A rule.**  Its variables are numbered from zero. -/
structure Clause (γ : Type) where
  head : Call
  body : List (Goal γ)
  vars : VarTable
  text : String
  line : Nat

/-- Rules as a list of texts, the line of each its place in the list. -/
def RuleText.numbered (texts : List String) : List RuleText :=
  texts.mapIdx fun i text => ⟨text, i + 1⟩

end Remedy
