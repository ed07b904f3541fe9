import Remedy.Expr.Func
import Remedy.Value.Text
/-!
# Expr — expressions, as trees and as text

An expression is a constant, a variable or the call of a function.  Calls of operators with one or two arguments are
written with their sign, all other calls by name.
-/
namespace Remedy

/-- **An expression.** -/
inductive Expr
  | literal (v : Value)
  | var (name : String)
  | call (f : Func) (args : List Expr)

namespace Expr

instance : Inhabited Expr := ⟨.literal .null⟩

def asLiteral? : Expr → Option Value
  | .literal v => some v
  | _ => none

def isLiteral (e : Expr) : Bool := e.asLiteral?.isSome

mutual

def chars : Expr → List Char
  | .literal v => v.display.toList
  | .var name => '?' :: name.toList
  | .call f [a, b] =>
    match f.symbol? with
    | some sign => '(' :: chars a ++ ' ' :: sign.toList ++ ' ' :: chars b ++ [')']
    | none => f.name.toList ++ '(' :: argChars [a, b] ++ [')']
  | .call f [a] =>
    match f.symbol? with
    | some sign => sign.toList ++ chars a
    | none => f.name.toList ++ '(' :: argChars [a] ++ [')']
  | .call f args => f.name.toList ++ '(' :: argChars args ++ [')']

def argChars : List Expr → List Char
  | [] => []
  | [a] => chars a
  | a :: rest => chars a ++ ',' :: ' ' :: argChars rest

end

/-- **The text of an expression.** -/
def display (e : Expr) : String := String.ofList e.chars

def insertName (name : String) : List String → List String
  | [] => [name]
  | n :: rest =>
    if name = n then n :: rest
    else if name < n then name :: n :: rest
    else n :: insertName name rest

mutual

def addVariables (names : List String) : Expr → List String
  | .literal _ => names
  | .var name => insertName name names
  | .call _ args => addVariablesOf names args

def addVariablesOf (names : List String) : List Expr → List String
  | [] => names
  | e :: rest => addVariablesOf (addVariables names e) rest

end

/-- **The variables of an expression**, in order. -/
def varNames (e : Expr) : List String := addVariables [] e

/-- The property that a call reads, if its name is a constant. -/
def propertyRead? : Func → List Expr → Option String
  | .get, [.literal v] => some v.toText
  | _, _ => none

mutual

/-- Adds the properties that an expression reads to a list of names. -/
def addProperties (names : List String) : Expr → List String
  | .literal _ => names
  | .var _ => names
  | .call f args =>
    addPropertiesOf (match propertyRead? f args with
      | some name => insertName name names
      | none => names) args

def addPropertiesOf (names : List String) : List Expr → List String
  | [] => names
  | e :: rest => addPropertiesOf (addProperties names e) rest

end

/-- **The properties that an expression reads** under a constant name, in order. -/
def properties (e : Expr) : List String := addProperties [] e

end Expr

end Remedy
