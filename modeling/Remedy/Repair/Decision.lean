import Remedy.Program.System
import Remedy.Query
import Remedy.Repair.Primitive
/-!
# Repair.Decision — deciding a repair by rules

The rules of a repair are compiled for the primitives.  A report is decided by its goal: the entity is repaired by
what the rules ask for on the way to the first solution, and the outcome is whether there is one.
-/
namespace Remedy.Repair

def compile (name rules : String) : Except CompileError (Library × Nat) :=
  (RuleModule.ofSource .initial name Primitive.provider rules).map Library.initial.add

/-- The variables that rules find in the session: the node, the error code and the name of the entity. -/
def announce (report : Report) (s : Session) : Session :=
  ((s.setVariable "NodeName" (.string report.nodeName)).setVariable "ErrorCode" (.string report.errorCode)).setVariable
    "RepairId" (.string report.entity)

def engine (x : Executor σ) (config : Config) (report : Report) (l : Library) : Query.Engine σ :=
  ⟨l, host x config.repair report, config.options⟩

/-- **Decides a report by rules.**  Nothing is changed if the rules do not compile. -/
def mitigate (x : Executor σ) (config : Config) (rules : String) (report : Report) (w : σ) (s : Session) :
    Except Failure Bool × σ × Session :=
  match compile "repair" rules with
  | .error e => (.error (.compile e), w, s)
  | .ok (l, owner) => Query.holds (engine x config report l) owner report.goal w (announce report s)

/-- **Decides a report by a file of rules**, in a session of its own. -/
def mitigateByFile (x : Executor σ) (config : Config) (rules : SourceFile) (report : Report) (w : σ) :
    Except Failure Bool × σ × Session :=
  match rules.rules with
  | .error e => (.error (.compile e), w, .new)
  | .ok text => mitigate x config text report w .new

end Remedy.Repair
