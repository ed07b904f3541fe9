/-!
# VarTable — the variables of one clause and their slots

Slots are numbered in the order in which the variables appear.  A name has one slot; the anonymous variable `_` gets a
new one every time.
-/
namespace Remedy

/-- **The names of the slots**, in order. -/
structure VarTable where
  names : List String
  deriving DecidableEq

namespace VarTable

def empty : VarTable := ⟨[]⟩

instance : Inhabited VarTable := ⟨empty⟩

def size (t : VarTable) : Nat := t.names.length

/-- The slot of a name; the anonymous variable has none of its own. -/
def slot? (t : VarTable) (name : String) : Option Nat :=
  if name = "_" then none else t.names.findIdx? (· == name)

/-- **The slot of a variable that appears**, and the table with it. -/
def slot (t : VarTable) (name : String) : Nat × VarTable :=
  match t.slot? name with
  | some i => (i, t)
  | none => (t.names.length, ⟨t.names ++ [name]⟩)

def addAll (t : VarTable) (names : List String) : VarTable :=
  names.foldl (fun t name => (t.slot name).2) t

end VarTable

end Remedy
