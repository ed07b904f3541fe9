import Remedy.Term.Text
import Remedy.Term.VarTable
import Remedy.Text.Blank
/-!
# Term.Parser — terms from their text

```text
?Name            variable         _            anonymous variable
"text" 'text'    text             12  -3  2.5  numbers
01:30:00         time span        true false   truth values
word             text             f(a, K: b)   compound term, arguments with names
[a, b | ?T]      list             {x <Name>}   template
```

An error tells what was expected and how many characters stand before the place.  A colon after a word makes it the
name of an argument, and so does an equals sign, unless what follows makes it the sign of a rule or of a test.
-/
namespace Remedy

/-- Why a text is no term, or no rule. -/
inductive SyntaxCause
  | unexpectedEnd
  | unexpected (c : Char)
  | unexpectedAfter (c : Char)
  | noVariableName
  | noArgumentEnd (found : Char)
  | unclosedCall
  | unclosedTail
  | noItemEnd
  | unclosedTemplate
  | unclosedString
  | invalidNumber (token : String)
  | expression (e : ExprError)
  | emptyGoal
  | emptyBody
  | templateInHead
  | notPredicate (text : String)

def SyntaxCause.message : SyntaxCause → String
  | .unexpectedEnd => "unexpected end of input"
  | .unexpected c => "unexpected character '" ++ String.singleton c ++ "'"
  | .unexpectedAfter c => "unexpected '" ++ String.singleton c ++ "' after term"
  | .noVariableName => "variable name expected after '?'"
  | .noArgumentEnd c => "expected ',' or ')' but found '" ++ String.singleton c ++ "'"
  | .unclosedCall => "missing ')'"
  | .unclosedTail => "expected ']' after list tail"
  | .noItemEnd => "expected ',', '|' or ']' in list"
  | .unclosedTemplate => "unterminated '\x7b' template"
  | .unclosedString => "unterminated string"
  | .invalidNumber token => "invalid number '" ++ token ++ "'"
  | .expression e => e.message
  | .emptyGoal => "empty goal"
  | .emptyBody => "rule body is empty"
  | .templateInHead => "templates are not allowed in a rule head"
  | .notPredicate text => "`" ++ text ++ "` is not a predicate"

/-- **An error in a text**, after so many of its characters. -/
structure SyntaxError where
  cause : SyntaxCause
  offset : Nat

namespace Term

/-- An error while the given text is left to be read, and the variables that have appeared before it. -/
structure Stop where
  cause : SyntaxCause
  left : List Char
  vars : VarTable

/-- A quoted text after its opening quote, without escapes, and what follows it. -/
def quotedRest (quote : Char) : List Char → Option (List Char × List Char)
  | [] => none
  | ['\\'] => none
  | '\\' :: 'n' :: cs => (quotedRest quote cs).map fun (s, rest) => ('\n' :: s, rest)
  | '\\' :: 't' :: cs => (quotedRest quote cs).map fun (s, rest) => ('\t' :: s, rest)
  | '\\' :: c :: cs => (quotedRest quote cs).map fun (s, rest) => (c :: s, rest)
  | c :: cs => if c = quote then some ([], cs) else (quotedRest quote cs).map fun (s, rest) => (c :: s, rest)

/-- The text of a template inside `depth` braces, up to the brace that closes it, and what follows. -/
def templateRest (depth : Nat) (quote : Option Text.OpenQuote) : List Char → Option (List Char × List Char)
  | [] => none
  | c :: cs =>
    let keep (r : Option (List Char × List Char)) := r.map fun (s, rest) => (c :: s, rest)
    match quote with
    | some q => keep (templateRest depth (q.next c) cs)
    | none =>
      if Text.isQuote c then keep (templateRest depth (some ⟨c, false⟩) cs)
      else if c = '{' then keep (templateRest (depth + 1) none cs)
      else if c = '}' then
        match depth with
        | 0 | 1 => some (['}'], cs)
        | d + 1 => keep (templateRest d none cs)
      else keep (templateRest depth none cs)

def startsWith (p : Char → Bool) : List Char → Bool
  | c :: _ => p c
  | [] => false

/-- The name before an argument, and what follows its colon or equals sign. -/
def argName? (cs : List Char) : Option (String × List Char) :=
  match cs with
  | [] => none
  | c :: _ =>
    if Decimal.isDigit c then
      match Text.trimStart (cs.dropWhile Decimal.isDigit) with
      | ':' :: rest =>
        -- a number before a colon and a digit starts a time span
        if startsWith Decimal.isDigit rest then none
        else some (String.ofList (cs.takeWhile Decimal.isDigit), rest)
      | _ => none
    else if Text.isIdentStart c then
      let name := String.ofList (cs.takeWhile Text.isIdentRest)
      match Text.trimStart (cs.dropWhile Text.isIdentRest) with
      -- `:-` parts a rule, and `==` compares
      | ':' :: rest => if startsWith (· == '-') rest then none else some (name, rest)
      | '=' :: rest => if startsWith (· == '=') rest then none else some (name, rest)
      | _ => none
    else none

/-- A character of a number or a time span. -/
def isNumberChar (c : Char) : Bool := Text.isAlphanumeric c || c == '.' || c == ':'

def number (cs : List Char) : Except SyntaxCause (Term × List Char) :=
  let (sign, body) := match cs with
    | '-' :: rest => (['-'], rest)
    | _ => ([], cs)
  let token := sign ++ body.takeWhile isNumberChar
  match Value.ofWord token with
  | .string _ | .null | .bool _ => .error (.invalidNumber (String.ofList token))
  | v => .ok (.const v, body.dropWhile isNumberChar)

/-- A template at the start of a text; its variables take slots in the order of their names. -/
def templateTerm (vars : VarTable) (cs : List Char) : Except Stop (Term × VarTable × List Char) :=
  match templateRest 1 none cs.tail with
  | none => .error ⟨.unclosedTemplate, cs, vars⟩
  | some (inner, rest) =>
    match Expr.build (String.ofList ('{' :: inner)) with
    | .error e => .error ⟨.expression e, cs, vars⟩
    | .ok e =>
      -- a template that folds to a constant is that constant
      let term := match e.asLiteral? with
        | some v => .const v
        | none => .template e
      .ok (term, vars.addAll e.varNames, rest)

def word (cs : List Char) : Value :=
  if cs = ['t', 'r', 'u', 'e'] then .bool true
  else if cs = ['f', 'a', 'l', 's', 'e'] then .bool false
  else if cs = ['n', 'u', 'l', 'l'] then .null
  else .string (String.ofList cs)

def appear (vars : VarTable) (name : String) (rest : List Char) : Term × VarTable × List Char :=
  let (slot, vars) := vars.slot name
  (.var name slot, vars, rest)

mutual

/-- **A term at the start of a text**, and what follows it. -/
def read : Nat → VarTable → List Char → Except Stop (Term × VarTable × List Char)
  | 0, vars, cs => .error ⟨.unexpectedEnd, cs, vars⟩
  | fuel + 1, vars, cs =>
    match Text.trimStart cs with
    | [] => .error ⟨.unexpectedEnd, [], vars⟩
    | c :: cs =>
      if c = '?' then
        let name := cs.takeWhile Text.isIdentRest
        if name.isEmpty then .error ⟨.noVariableName, cs, vars⟩
        else .ok (appear vars (String.ofList name) (cs.dropWhile Text.isIdentRest))
      else if c = '_' && !startsWith Text.isIdentRest cs then .ok (appear vars "_" cs)
      else if Text.isQuote c then
        match quotedRest c cs with
        | some (s, rest) => .ok (.const (.string (String.ofList s)), vars, rest)
        | none => .error ⟨.unclosedString, c :: cs, vars⟩
      else if c = '[' then
        match Text.trimStart cs with
        | ']' :: rest => .ok (.nil, vars, rest)
        | cs => readItems fuel vars [] cs
      else if c = '{' then templateTerm vars (c :: cs)
      else if c = '-' || Decimal.isDigit c then
        match number (c :: cs) with
        | .ok (t, rest) => .ok (t, vars, rest)
        | .error cause => .error ⟨cause, c :: cs, vars⟩
      else if Text.isIdentStart c then
        let name := (c :: cs).takeWhile Text.isIdentRest
        match Text.trimStart ((c :: cs).dropWhile Text.isIdentRest) with
        | '(' :: rest =>
          match readArgs fuel vars rest with
          | .ok (args, vars, rest) => .ok (.compound (String.ofList name) args, vars, rest)
          | .error e => .error e
        | rest => .ok (.const (word name), vars, rest)
      else .error ⟨.unexpected c, c :: cs, vars⟩

def readArgs : Nat → VarTable → List Char → Except Stop (List (Arg Term) × VarTable × List Char)
  | 0, vars, cs => .error ⟨.unexpectedEnd, cs, vars⟩
  | fuel + 1, vars, cs =>
    match Text.trimStart cs with
    | ')' :: rest => .ok ([], vars, rest)
    | cs => readArgList fuel vars [] cs

/-- Arguments with commas between them up to the closing bracket; `done` holds those read, the last first. -/
def readArgList : Nat → VarTable → List (Arg Term) → List Char → Except Stop (List (Arg Term) × VarTable × List Char)
  | 0, vars, _, cs => .error ⟨.unexpectedEnd, cs, vars⟩
  | fuel + 1, vars, done, cs =>
    let (name, value) := match argName? (Text.trimStart cs) with
      | some (name, rest) => (some name, rest)
      | none => (none, cs)
    match read fuel vars value with
    | .error e => .error e
    | .ok (t, vars, rest) =>
      match Text.trimStart rest with
      | ',' :: rest => readArgList fuel vars (⟨name, t⟩ :: done) rest
      | ')' :: rest => .ok ((⟨name, t⟩ :: done).reverse, vars, rest)
      | c :: rest => .error ⟨.noArgumentEnd c, c :: rest, vars⟩
      | [] => .error ⟨.unclosedCall, [], vars⟩

/-- The items of a list up to its closing bracket; `done` holds those read, the last first. -/
def readItems : Nat → VarTable → List Term → List Char → Except Stop (Term × VarTable × List Char)
  | 0, vars, _, cs => .error ⟨.unexpectedEnd, cs, vars⟩
  | fuel + 1, vars, done, cs =>
    match read fuel vars cs with
    | .error e => .error e
    | .ok (t, vars, rest) =>
      match Text.trimStart rest with
      | ',' :: rest => readItems fuel vars (t :: done) rest
      | ']' :: rest => .ok (list (t :: done).reverse .nil, vars, rest)
      | '|' :: rest =>
        match read fuel vars rest with
        | .error e => .error e
        | .ok (tail, vars, rest) =>
          match Text.trimStart rest with
          | ']' :: rest => .ok (list (t :: done).reverse tail, vars, rest)
          | rest => .error ⟨.unclosedTail, rest, vars⟩
      | rest => .error ⟨.noItemEnd, rest, vars⟩

end

/-- An error in a text of `total` characters. -/
def Stop.inText (total : Nat) (e : Stop) : SyntaxError := ⟨e.cause, total - e.left.length⟩

def readAll (vars : VarTable) (cs : List Char) : Except Stop (Term × VarTable) :=
  match read (3 * cs.length + 4) vars cs with
  | .error e => .error e
  | .ok (t, vars, rest) =>
    match Text.trimStart rest with
    | [] => .ok (t, vars)
    | c :: rest => .error ⟨.unexpectedAfter c, c :: rest, vars⟩

/-- The term that characters spell, its variables put into a table. -/
def parseChars (vars : VarTable) (cs : List Char) : Except SyntaxError (Term × VarTable) :=
  match readAll vars cs with
  | .error e => .error (e.inText cs.length)
  | .ok r => .ok r

/-- **The term that a text spells**, its variables put into a table. -/
def parse (vars : VarTable) (text : String) : Except SyntaxError (Term × VarTable) := parseChars vars text.toList

/-- The table with the variables of a text, in case of an error with those that appear before it. -/
def appearing (vars : VarTable) (text : String) : VarTable :=
  match readAll vars text.toList with
  | .error e => e.vars
  | .ok (_, vars) => vars

end Term

end Remedy
