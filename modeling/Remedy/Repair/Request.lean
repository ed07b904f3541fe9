import Remedy.Config
import Remedy.Query.Arguments
import Remedy.Repair.Action
import Remedy.Text.Blank
/-!
# Repair.Request — how rules ask for a repair

A call of an action's predicate is read into a policy.  Restarts take at most three arguments, which are found under
their names or at their positions.  A deletion of files takes its folder first and all else by name; it checks first
that it knows every argument that is written.
-/
namespace Remedy.Repair

/-- What is wrong with a request to delete files. -/
inductive CleanupFault
  | unsupported (name : Option String)
  | noFolder
  | unknownOrder (name : String)
  | negative
  deriving DecidableEq

def CleanupFault.message : CleanupFault → String
  | .unsupported name => "unsupported argument " ++ name.getD "(positional)"
  | .noFolder => "a folder path is required"
  | .unknownOrder name => "unknown sort order " ++ name
  | .negative => "MaxFilesToDelete must not be negative"

/-- What has been read of a call, or the fault as one of the goal. -/
def inGoal (c : Call) (r : Except CleanupFault α) : Except QueryError α :=
  r.mapError fun fault => .invalidGoal c.display (.refused fault.message)

/-- **The policy of a restart.** -/
def restartPolicy (settings : RepairSettings) (t : Target) (c : Call) : Except QueryError Policy := do
  let checks ← c.readBool 0 "DoHealthChecks"
  let wait ← c.readTimespan 1 "MaxWaitTimeForHealthStateOk"
  let limit ← c.readTimespan 2 "MaxExecutionTime"
  .ok ⟨.restart t, checks.getD false, wait.getD .zero, limit.getD settings.longest, none⟩

def cleanupNames : List String := ["folderpath", "sortorder", "maxfilestodelete", "recursesubdirectories"]

/-- A deletion knows its first argument, and those with its names in any case. -/
def isCleanupArg (position : Nat) (a : Arg Term) : Bool :=
  match a.name with
  | none => position == 0
  | some name => cleanupNames.contains (String.ofList (name.toList.map Char.toLower))

/-- Checks that a deletion knows all arguments; `position` is that of the first of the list. -/
def checkArgs (position : Nat) : List (Arg Term) → Except CleanupFault Unit
  | [] => .ok ()
  | a :: rest => if isCleanupArg position a then checkArgs (position + 1) rest else .error (.unsupported a.name)

/-- The folder, whose path is not blank. -/
def readFolder (c : Call) : Except CleanupFault String :=
  match c.text? 0 "FolderPath" with
  | some path => if (Text.trim path.toList).isEmpty then .error .noFolder else .ok path
  | none => .error .noFolder

/-- The order in which files go, the oldest first if it is not given. -/
def readOrder (c : Call) : Except CleanupFault FileOrder :=
  match c.text? c.arity "SortOrder" with
  | none => .ok .ascending
  | some name =>
    match FileOrder.ofName? name with
    | some o => .ok o
    | none => .error (.unknownOrder name)

/-- The number of files that go, all if it is not given. -/
def maxFiles : Option Int64 → Except CleanupFault Nat
  | none => .ok 0
  | some n => if n < 0 then .error .negative else .ok n.toInt.toNat

/-- **Which files a request wants deleted.** -/
def readCleanup (c : Call) : Except QueryError Cleanup := do
  inGoal c (checkArgs 0 c.args)
  let folder ← inGoal c (readFolder c)
  let order ← inGoal c (readOrder c)
  let given ← c.readInt c.arity "MaxFilesToDelete"
  let most ← inGoal c (maxFiles given)
  let recurse ← c.readBool c.arity "RecurseSubdirectories"
  .ok ⟨folder, order, most, recurse.getD false⟩

def deletionPolicy (settings : RepairSettings) (c : Call) : Except QueryError Policy :=
  (readCleanup c).map fun cleanup => { Policy.plain .deleteFiles settings.longest with cleanup := some cleanup }

end Remedy.Repair
