import Remedy.Expr.Eval
import Remedy.Expr.Parser
import Remedy.Expr.Template
/-!
# Expr.Build — from text to a folded expression

Building trims a text, writes its template as a call, parses the result and folds it.  An expression whose value is
itself the text of an expression is built a second time, as it stands or as a template.
-/
namespace Remedy

/-- **Why an expression fails**: its text spells none, or it has no value. -/
inductive ExprError
  | parse (text : String) (cause : Expr.ParseCause)
  | evaluation (e : Expr.EvalError)

def ExprError.message : ExprError → String
  | .parse text cause => "Expression `" ++ text ++ "` not well formed: " ++ cause.message
  | .evaluation e => e.message

namespace Expr

/-- **The expression that a text spells.** -/
def build (text : String) : Except ExprError Expr :=
  let cs := Text.trim text.toList
  if cs.isEmpty then .error (.parse text .empty)
  else match ofChars (expand cs) with
    | .ok e => .ok e.fold
    | .error cause => .error (.parse (String.ofList cs) cause)

/-- **The expression that the value of an expression spells**: the value as it stands, or as a template. -/
def rebuild (env : Env) (final : Bool) (e : Expr) : Except ExprError Expr :=
  match e.eval env with
  | .error cause => .error (.evaluation cause)
  | .ok v => if final then build v.toText else build ("\x7b" ++ v.toText ++ "\x7d")

end Expr

end Remedy
