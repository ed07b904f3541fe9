import Remedy.Expr.Apply
import Remedy.Expr.Basic
/-!
# Expr.Eval — the value of an expression, and folding

Arguments are evaluated before the call, from the left; `and` and `or` stop at the argument that settles them, and
`iif` evaluates only the branch it takes.  A variable or a property without a value is the absent value.  Folding
replaces a call of constants by its value; a call without a value is left in place, so that its error comes when the
expression is evaluated.
-/
namespace Remedy.Expr

/-- **What an expression is evaluated in**: the values of variables and properties, the time, and a fresh
identifier. -/
structure Env where
  variableOf : String → Option Value
  propertyOf : String → Option Value
  surroundings : Func.Surroundings

/-- The time and the identifier when nobody provides them. -/
def Env.still : Func.Surroundings :=
  ⟨"1970-01-01T00:00:00.000000000+00:00", "00000000-0000-4000-8000-000000000000"⟩

def Env.empty : Env := ⟨fun _ => none, fun _ => none, Env.still⟩

/-- **Why an expression has no value**: the innermost call that has none, and the function's reason. -/
structure EvalError where
  call : Expr
  cause : FunctionError

def EvalError.message (e : EvalError) : String :=
  "Error evaluating the expression " ++ e.call.display ++ ": " ++ e.cause.message

/-- Puts the call into the error of its function. -/
def inCall (call : Expr) (r : Except FunctionError α) : Except EvalError α :=
  match r with
  | .ok a => .ok a
  | .error cause => .error ⟨call, cause⟩

mutual

/-- **The value of an expression.** -/
def eval (env : Env) : Expr → Except EvalError Value
  | .literal v => .ok v
  | .var name => .ok ((env.variableOf name).getD .null)
  | .call .and args => evalUntil env (.call .and args) .and false args
  | .call .or args => evalUntil env (.call .or args) .or true args
  | .call .iif [c, a, b] =>
    match eval env c with
    | .error e => .error e
    | .ok v =>
      match inCall (.call .iif [c, a, b]) (Func.truth .not v) with
      | .error e => .error e
      | .ok true => eval env a
      | .ok false => eval env b
  -- the name of a property may itself be computed
  | .call .get [a] =>
    match eval env a with
    | .error e => .error e
    | .ok v => .ok ((env.propertyOf v.toText).getD .null)
  | .call f args =>
    match evalAll env args with
    | .error e => .error e
    | .ok vs => inCall (.call f args) (f.apply env.surroundings vs)

def evalAll (env : Env) : List Expr → Except EvalError (List Value)
  | [] => .ok []
  | e :: rest =>
    match eval env e with
    | .error e => .error e
    | .ok v =>
      match evalAll env rest with
      | .error e => .error e
      | .ok vs => .ok (v :: vs)

/-- The arguments of the call of `f` from the left up to one with the truth value `stop`. -/
def evalUntil (env : Env) (call : Expr) (f : Func) (stop : Bool) : List Expr → Except EvalError Value
  | [] => .ok (.bool (!stop))
  | e :: rest =>
    match eval env e with
    | .error e => .error e
    | .ok v =>
      match inCall call (f.truth v) with
      | .error e => .error e
      | .ok b => if b = stop then .ok (.bool stop) else evalUntil env call f stop rest

end

/-- A call, replaced by its value if its arguments are constants and it has one. -/
def foldCall (f : Func) (args : List Expr) : Expr :=
  if f.isFoldable && args.all isLiteral then
    match eval Env.empty (.call f args) with
    | .ok v => .literal v
    | .error _ => .call f args
  else .call f args

mutual

/-- **The expression with its constant parts computed.** -/
def fold : Expr → Expr
  | .literal v => .literal v
  | .var name => .var name
  | .call f args => foldCall f (foldAll args)

def foldAll : List Expr → List Expr
  | [] => []
  | e :: rest => fold e :: foldAll rest

end

end Remedy.Expr
