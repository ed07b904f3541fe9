import Remedy.Expr.Operator
import Remedy.Text.Alphabetic
import Remedy.Text.Blank
/-!
# Expr.Parser — expressions from their text

An operand runs up to the next operator outside quotes: a quoted text, a variable after a question mark, a call, or a
word that spells a constant.  A minus sign directly before a digit belongs to the number when an operand is due.  The
arguments of a call are expressions of their own; one that is left out is the absent value.
-/
namespace Remedy.Expr

/-- A quoted text without its escapes: a backslash makes `n` a line feed and `t` a tab, and other characters stand
for themselves. -/
def unescape : List Char → List Char
  | [] => []
  | ['\\'] => []
  | '\\' :: 'n' :: cs => '\n' :: unescape cs
  | '\\' :: 't' :: cs => '\t' :: unescape cs
  | '\\' :: c :: cs => c :: unescape cs
  | c :: cs => c :: unescape cs

/-- The operand that a word without blanks around it spells. -/
def atom (token : List Char) : Except ParseCause Expr :=
  match token with
  | [] => .ok (.literal .null)
  | c :: rest =>
    if Text.isQuote c then
      match Text.dropLast? c rest with
      | some inner => .ok (.literal (.string (String.ofList (unescape inner))))
      | none => .error (.badLiteral (String.ofList token))
    else if c = '?' then
      if rest.isEmpty || !rest.all Text.isIdentRest then .error (.badVariable (String.ofList token))
      else .ok (.var (String.ofList rest))
    else .ok (.literal (Value.ofWord token))

/-- What the text of an operand turns out to be: a word, the name of a call up to its bracket, or a text whose quote
does not end; with it, the rest of the text. -/
inductive Reading
  | word (token rest : List Char)
  | callOf (name rest : List Char)
  | unclosed

def startsNumber : List Char → Bool
  | '-' :: d :: _ => Decimal.isDigit d
  | _ => false

/-- Reads an operand.  `soFar` holds the characters read, the last first. -/
def readOperand (soFar : List Char) (quote : Option Text.OpenQuote) : List Char → Reading
  | [] => if quote.isSome then .unclosed else .word (Text.trim soFar.reverse) []
  | c :: cs =>
    match quote with
    | some q => readOperand (c :: soFar) (q.next c) cs
    | none =>
      -- after nothing but blanks a bracket opens a group, and a minus before a digit belongs to the number
      let blank := (Text.trim soFar).isEmpty
      if Text.isQuote c then readOperand (c :: soFar) (some ⟨c, false⟩) cs
      else if c = '(' && !blank then .callOf (Text.trim soFar.reverse) cs
      else if !(blank && startsNumber (c :: cs)) && (operator? (c :: cs)).isSome then
        .word (Text.trim soFar.reverse) (c :: cs)
      else readOperand (c :: soFar) none cs

/-- The texts of the arguments of a call, each trimmed, and what follows the call's closing bracket.  Without that
bracket only the arguments that a comma ends are given. -/
def arguments (depth : Nat) (quote : Option Text.OpenQuote) (soFar : List Char) :
    List Char → List (List Char) × Option (List Char)
  | [] => ([], none)
  | c :: cs =>
    match quote with
    | some q => arguments depth (q.next c) (c :: soFar) cs
    | none =>
      if Text.isQuote c then arguments depth (some ⟨c, false⟩) (c :: soFar) cs
      else if c = '(' then arguments (depth + 1) none (c :: soFar) cs
      else if c = ')' then
        match depth with
        | 0 => ([Text.trim soFar.reverse], some cs)
        | d + 1 => arguments d none (c :: soFar) cs
      else if c = ',' && depth = 0 then
        let (rest, after) := arguments 0 none [] cs
        (Text.trim soFar.reverse :: rest, after)
      else arguments depth none (c :: soFar) cs

mutual

/-- **The expression that a text spells**, before folding. -/
def parseTree : Nat → List Char → Except ParseCause Expr
  | 0, _ => .error .empty
  | fuel + 1, cs => ofLexemes (lexemes fuel true cs)

/-- The lexemes of a text; `due` tells that an operand is due. -/
def lexemes : Nat → Bool → List Char → List Lexeme
  | 0, _, _ => []
  | fuel + 1, true, cs =>
    match readOperand [] none cs with
    | .unclosed => [.failed .unclosedString]
    | .word token rest =>
      if token.isEmpty then .operand none :: lexemes fuel false rest
      else match atom token with
        | .ok e => .operand (some e) :: lexemes fuel false rest
        | .error cause => [.failed cause]
    | .callOf name rest =>
      match Func.ofChars? name with
      | none => [.failed (.unknownFunction (String.ofList name))]
      | some f =>
        match arguments 0 none [] rest with
        | (texts, after) =>
          -- an empty pair of brackets has no arguments, not one that is left out
          match parseArguments fuel (if texts = [[]] && after.isSome then [] else texts), after with
          | .error cause, _ => [.failed cause]
          | .ok _, none => [.failed (.unclosedCall (String.ofList name))]
          | .ok args, some after =>
            if f.accepts args.length then .operand (some (.call f args)) :: lexemes fuel false after
            else [.failed (.argumentCount f args.length)]
  | fuel + 1, false, cs =>
    match Text.trimStart cs with
    | [] => []
    | c :: rest =>
      match operator? (c :: rest) with
      | none => [.failed (.unexpected c)]
      | some (.closing, after) => .operator .closing :: lexemes fuel false after
      | some (op, after) => .operator op :: lexemes fuel true after

def parseArguments : Nat → List (List Char) → Except ParseCause (List Expr)
  | 0, _ => .error .empty
  | _ + 1, [] => .ok []
  | fuel + 1, text :: rest =>
    match (if text.isEmpty then .ok (.literal .null) else parseTree fuel text) with
    | .error cause => .error cause
    | .ok e =>
      match parseArguments fuel rest with
      | .error cause => .error cause
      | .ok es => .ok (e :: es)

end

/-- More steps than the reading of a text of `n` characters takes. -/
def enough (n : Nat) : Nat := 4 * n + 8

/-- **The tree of a text**, or why there is none. -/
def ofChars (cs : List Char) : Except ParseCause Expr := parseTree (enough cs.length) cs

end Remedy.Expr
