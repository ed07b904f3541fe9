import Remedy.Context.Tree
import Remedy.Facts
/-!
# Session — what the goals of a query share

All contexts of a query share its variables, its asserted facts and its journal, in which messages and, on request,
the goals that are run are written down.
-/
namespace Remedy

/-- **The shared state of a query.** -/
structure Session where
  tree : Context.Tree
  values : List (String × Value)
  facts : Facts
  messages : Array String
  trace : Array (Nat × String)

namespace Session

def new : Session := ⟨.root, [], .empty, #[], #[]⟩

def valueOf? (s : Session) (name : String) : Option Value := (s.values.find? (·.1 == name)).map (·.2)

def put (name : String) (v : Value) : List (String × Value) → List (String × Value)
  | [] => [(name, v)]
  | (n, w) :: rest => if n = name then (n, v) :: rest else (n, w) :: put name v rest

/-- **Gives a variable a value.** -/
def setVariable (s : Session) (name : String) (v : Value) : Session := { s with values := put name v s.values }

def onTree (s : Session) (f : Context.Tree → Context.Tree) : Session := { s with tree := f s.tree }

def isCancelled (s : Session) : Bool := s.tree.forest.isCancelled 0

def note (s : Session) (message : String) : Session := { s with messages := s.messages.push message }

def assert (s : Session) (fact : Call) (atEnd : Bool) : Except QueryError Session :=
  (s.facts.assert fact atEnd).map fun f => { s with facts := f }

end Session

end Remedy
