import Remedy.Expr.Eval
import Remedy.Term.Basic
/-!
# Term.Instance — terms of a rule at run time

A rule numbers its variables from zero.  When it is run its variables get slots of their own, from a base upwards, and
its templates get their values.
-/
namespace Remedy.Term

mutual

/-- **The term with its slots moved up and its templates evaluated**, or the first error of a template. -/
def instantiate (env : Expr.Env) (base : Nat) : Term → Except Expr.EvalError Term
  | .const v => .ok (.const v)
  | .var name slot => .ok (.var name (slot + base))
  | .compound functor args => (instantiateArgs env base args).map (.compound functor)
  | .template e => (e.eval env).map .const
  | .nil => .ok .nil

def instantiateArgs (env : Expr.Env) (base : Nat) : List (Arg Term) → Except Expr.EvalError (List (Arg Term))
  | [] => .ok []
  | a :: rest =>
    match instantiate env base a.value with
    | .error e => .error e
    | .ok value => (instantiateArgs env base rest).map (⟨a.name, value⟩ :: ·)

end

end Remedy.Term
