import Remedy.Timespan
/-!
# Repair.Action — what can be done about an entity

Something is restarted, or files are deleted.  A policy says how: whether the health of the entity is checked
afterwards, how long to wait for it, how long the repair may take, and which files go.
-/
namespace Remedy.Repair

/-- What is restarted. -/
inductive Target
  | replica
  | codePackage
  | node
  | machine
  | systemProcess
  deriving DecidableEq

/-- **What can be done.** -/
inductive Action
  | restart (target : Target)
  | deleteFiles
  deriving DecidableEq

namespace Action

/-- The name of an action, which is also the name of the predicate that asks for it. -/
def name : Action → String
  | .restart .replica => "RestartReplica"
  | .restart .codePackage => "RestartCodePackage"
  | .restart .node => "RestartFabricNode"
  | .restart .machine => "RestartVM"
  | .restart .systemProcess => "RestartFabricSystemProcess"
  | .deleteFiles => "DeleteFiles"

def all : List Action :=
  [.restart .replica, .restart .codePackage, .restart .node, .restart .machine, .restart .systemProcess, .deleteFiles]

def ofName? (name : String) : Option Action := all.find? (·.name == name)

end Action

/-- Which files go first: the oldest or the newest. -/
inductive FileOrder
  | ascending
  | descending
  deriving DecidableEq

def FileOrder.ofName? (name : String) : Option FileOrder :=
  let word := String.ofList (name.toList.map Char.toLower)
  if word = "ascending" then some .ascending else if word = "descending" then some .descending else none

/-- **Which files to delete**: the folder, which of them go first, how many at most, where zero stands for all, and
whether those of nested folders go too. -/
structure Cleanup where
  folder : String
  order : FileOrder
  maxFiles : Nat
  recurse : Bool
  deriving DecidableEq

/-- **How a repair is carried out.**  Only the deletion of files has a cleanup. -/
structure Policy where
  action : Action
  checks : Bool
  wait : Timespan
  limit : Timespan
  cleanup : Option Cleanup
  deriving DecidableEq

/-- An action with nothing said about it but how long it may take. -/
def Policy.plain (action : Action) (limit : Timespan) : Policy := ⟨action, false, .zero, limit, none⟩

end Remedy.Repair
