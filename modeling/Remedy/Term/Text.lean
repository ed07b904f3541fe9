import Remedy.Term.Basic
/-!
# Term.Text — the written form of a term

A variable is written after a question mark, the anonymous one as `_`; a template stands in braces; the cells of a
list are written as one list between square brackets, with a bar before a tail that is not the empty list.
-/
namespace Remedy.Term

/-- The characters of a term that is no cell, where a list is or is not open before it. -/
def closed (inList : Bool) (cs : List Char) : List Char :=
  if inList then ' ' :: '|' :: ' ' :: cs ++ [']'] else cs

def varChars (name : String) : List Char := if name = "_" then ['_'] else '?' :: name.toList

def nameChars : Option String → List Char
  | some name => name.toList ++ [':', ' ']
  | none => []

def callChars (functor : String) (args : List Char) (none : Bool) : List Char :=
  if none then functor.toList else functor.toList ++ '(' :: args ++ [')']

mutual

/-- The characters of a term; with `inList`, those that go on with an open list and close it. -/
def chars (inList : Bool) : Term → List Char
  | .const v => closed inList v.display.toList
  | .var name _ => closed inList (varChars name)
  | .template e => closed inList ('{' :: e.chars ++ ['}'])
  | .nil => if inList then [']'] else ['[', ']']
  | .compound f [a, b] =>
    if f = cellFunctor then
      (if inList then [',', ' '] else ['[']) ++ chars false a.value ++ chars true b.value
    else closed inList (callChars f (argChars [a, b]) false)
  | .compound f args => closed inList (callChars f (argChars args) args.isEmpty)

def argChars : List (Arg Term) → List Char
  | [] => []
  | [a] => nameChars a.name ++ chars false a.value
  | a :: rest => nameChars a.name ++ chars false a.value ++ ',' :: ' ' :: argChars rest

end

/-- **The text of a term.** -/
def display (t : Term) : String := String.ofList (t.chars false)

end Remedy.Term

def Remedy.Call.chars (c : Remedy.Call) : List Char :=
  Remedy.Term.callChars c.functor (Remedy.Term.argChars c.args) c.args.isEmpty

/-- The text of a call; a list cell is written like any other call. -/
def Remedy.Call.display (c : Remedy.Call) : String := String.ofList c.chars
