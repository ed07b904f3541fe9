import Remedy.Text.Alphabetic
import Remedy.Text.Blank
/-!
# Expr.Template — texts with places for values

A text in braces is a template: `<Name>` stands for a property, `<?Name>` for a variable and `<call(…)>` for a call.
A template is rewritten as a call that joins its pieces; in double braces, the joined text is itself an expression.
-/
namespace Remedy.Expr

def isPlaceChar (c : Char) : Bool := Text.isAlphanumeric c || "_#:.()/?".toList.contains c

/-- The name of the place that starts after a `<`. -/
def place? (cs : List Char) : Option (List Char) :=
  match Text.cutAt '>' cs with
  | some (name, _) => if !name.isEmpty && name.all isPlaceChar then some name else none
  | none => none

/-- What a place is as an argument: variables and calls as they are, other names as properties. -/
def placeArgument (name : List Char) : List Char :=
  if name.head? = some '?' || name.contains '(' then name
  else ['g', 'e', 't', '('] ++ name ++ [')']

/-- A character of the text around the places, inside quotes. -/
def escapeChar (c : Char) : List Char := if c = '"' || c = '\\' then ['\\', c] else [c]

/-- The text of a template as arguments of a call, from within an open quote on; `skip` characters belong to a place
that has been dealt with. -/
def pieces : Nat → List Char → List Char
  | _, [] => []
  | skip + 1, _ :: cs => pieces skip cs
  | 0, c :: cs =>
    if c = '<' then
      match place? cs with
      -- the quote is closed, the place is an argument of its own, and another quote is opened
      | some name => ['"', ','] ++ placeArgument name ++ [',', '"'] ++ pieces (name.length + 1) cs
      | none => c :: pieces 0 cs
    else escapeChar c ++ pieces 0 cs

def between? (opening closing : List Char) (cs : List Char) : Option (List Char) :=
  match Text.after? opening cs with
  | some rest =>
    if Text.endsWith closing rest then some (rest.take (rest.length - closing.length)) else none
  | none => none

/-- **The text with templates written as calls.** -/
def expand (cs : List Char) : List Char :=
  match between? ['{', '{'] ['}', '}'] cs with
  | some inner => "expression(\"".toList ++ pieces 0 inner ++ ['"', ')']
  | none =>
    match between? ['{'] ['}'] cs with
    | some inner => "add(\"".toList ++ pieces 0 inner ++ ['"', ')']
    | none => cs

end Remedy.Expr
