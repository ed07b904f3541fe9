import Remedy.Expr.Basic
/-!
# Expr.Operator — how operators group

Operands and operators alternate, and every place before an operator or a bracket that has no operand holds an empty
one.  Two stacks turn them into a tree: an operator waits until one of the same or a lower level comes.  An operator
that finds an empty operand on its left is a prefix and never makes another one wait.
-/
namespace Remedy.Expr

inductive ParseCause
  | empty
  | unexpected (c : Char)
  | unclosedString
  | unclosedBracket
  | unopenedBracket
  | unclosedCall (name : String)
  | unknownFunction (name : String)
  | argumentCount (f : Func) (count : Nat)
  | noOperand
  | noOperandBefore (f : Func)
  | noOperandAfter (f : Func)
  | twoOperands
  | noOperator
  | badLiteral (token : String)
  | badVariable (token : String)

def signOf (f : Func) : String := f.symbol?.getD ""

def ParseCause.message : ParseCause → String
  | .empty => "empty expression"
  | .unexpected c => "unexpected '" ++ String.singleton c ++ "'"
  | .unclosedString => "unterminated string"
  | .unclosedBracket => "unbalanced '('"
  | .unopenedBracket => "unbalanced ')'"
  | .unclosedCall name => "missing ')' for '" ++ name ++ "'"
  | .unknownFunction name => "unknown function '" ++ name ++ "'"
  | .argumentCount f n => "'" ++ f.name ++ "' called with " ++ toString n ++ " argument(s)"
  | .noOperand => "missing operand"
  | .noOperandBefore f => "missing operand before '" ++ signOf f ++ "'"
  | .noOperandAfter f => "missing operand after '" ++ signOf f ++ "'"
  | .twoOperands => "'!' takes a single operand"
  | .noOperator => "missing operator"
  | .badLiteral token => "invalid literal " ++ token
  | .badVariable token => "invalid variable " ++ token

/-- **What stands between operands.** -/
inductive Operator
  | opening
  | closing
  | apply (f : Func)

/-- The level of an operator: higher ones group first. -/
def level : Func → Nat
  | .or => 2
  | .and => 3
  | .ge | .le | .eq | .ne | .like | .gt | .lt => 4
  | .add | .sub => 5
  | .mul | .div => 6
  | .mod | .not => 7
  | _ => 0

/-- The operators with their signs; a sign that starts with another stands before it. -/
def operators : List (List Char × Operator) :=
  [(['|', '|'], .apply .or), (['&', '&'], .apply .and), (['>', '='], .apply .ge), (['<', '='], .apply .le),
    (['=', '='], .apply .eq), (['!', '='], .apply .ne), (['~', '~'], .apply .like), (['('], .opening),
    ([')'], .closing), (['>'], .apply .gt), (['<'], .apply .lt), (['+'], .apply .add), (['-'], .apply .sub),
    (['*'], .apply .mul), (['/'], .apply .div), (['%'], .apply .mod), (['!'], .apply .not)]

/-- The operator that starts a text, and the text after it. -/
def operator? (cs : List Char) : Option (Operator × List Char) :=
  operators.findSome? fun (sign, op) => (Text.after? sign cs).map (op, ·)

/-- The two stacks: operands (an empty one is `none`) and waiting operators, the last first. -/
structure Stacks where
  operands : List (Option Expr)
  waiting : List Operator

def isSign (f : Func) : Bool := f == .not || f == .sub

def reduce (f : Func) : List (Option Expr) → Except ParseCause (List (Option Expr))
  | none :: _ :: _ => .error (.noOperandAfter f)
  | some b :: none :: rest =>
    if isSign f then .ok (some (.call f [b]) :: rest) else .error (.noOperandBefore f)
  | some b :: some a :: rest =>
    -- the last operand is the right one
    if f = .not then .error .twoOperands else .ok (some (.call f [a, b]) :: rest)
  | _ => .error .noOperand

/-- Applies the waiting operators of the given level or a higher one. -/
def reduceFrom (least : Nat) (operands : List (Option Expr)) : List Operator → Except ParseCause Stacks
  | .apply f :: waiting =>
    if least ≤ level f then
      match reduce f operands with
      | .ok operands => reduceFrom least operands waiting
      | .error cause => .error cause
    else .ok ⟨operands, .apply f :: waiting⟩
  | waiting => .ok ⟨operands, waiting⟩

/-- Applies the waiting operators up to the last open bracket, and closes it. -/
def closeBracket (operands : List (Option Expr)) (waiting : List Operator) : Except ParseCause Stacks :=
  match reduceFrom 0 operands waiting with
  | .error cause => .error cause
  | .ok ⟨operands, .opening :: waiting⟩ => .ok ⟨operands, waiting⟩
  | .ok _ => .error .unopenedBracket

/-- **Takes one more operator in.** -/
def Stacks.push (s : Stacks) : Operator → Except ParseCause Stacks
  | .opening =>
    match s.operands with
    | some _ :: _ => .error (.unexpected '(')
    | operands => .ok ⟨operands.tail, .opening :: s.waiting⟩
  | .closing => closeBracket s.operands s.waiting
  | .apply f =>
    -- before a sign stands an empty operand, which it does not need
    match isSign f, s.operands with
    | true, none :: _ => .ok ⟨s.operands, .apply f :: s.waiting⟩
    | _, _ =>
      match reduceFrom (level f) s.operands s.waiting with
      | .error cause => .error cause
      | .ok s => .ok ⟨s.operands, .apply f :: s.waiting⟩

/-- **The tree**, once everything has been taken in. -/
def Stacks.finish (s : Stacks) : Except ParseCause Expr :=
  match reduceFrom 0 s.operands s.waiting with
  | .error cause => .error cause
  | .ok ⟨_, _ :: _⟩ => .error .unclosedBracket
  | .ok ⟨[some e], []⟩ => .ok e
  | .ok ⟨some _ :: _, []⟩ => .error .noOperator
  | .ok ⟨_, []⟩ => .error .empty

/-- A step of the reading of an expression: an operand, an operator, or the reason why reading stops. -/
inductive Lexeme
  | operand (e : Option Expr)
  | operator (op : Operator)
  | failed (cause : ParseCause)

def group (s : Stacks) : List Lexeme → Except ParseCause Expr
  | [] => s.finish
  | .operand e :: rest => group ⟨e :: s.operands, s.waiting⟩ rest
  | .operator op :: rest =>
    match s.push op with
    | .ok s => group s rest
    | .error cause => .error cause
  | .failed cause :: _ => .error cause

/-- **The tree of a sequence of lexemes.** -/
def ofLexemes (lexemes : List Lexeme) : Except ParseCause Expr := group ⟨[], []⟩ lexemes

end Remedy.Expr
