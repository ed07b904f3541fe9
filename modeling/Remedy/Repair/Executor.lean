import Remedy.Repair.Action
import Remedy.Repair.Report
/-!
# Repair.Executor — who carries out repairs

Repairs are scheduled and carried out by the cluster, which also knows what has happened before.  What the library
needs of it is a record of operations on the cluster's world.  Any of them may fail.
-/
namespace Remedy.Repair

/-- **A repair that has been scheduled.** -/
structure Task where
  id : Nat
  entity : String
  policy : Policy
  errorCode : String
  deriving DecidableEq

/-- **The operations of a cluster**: to schedule a repair, which it may decline; to carry it out and tell whether that
went well; to count the successful repairs of an entity and the health events of a property within a time span; to
tell how many nanoseconds ago a repair of an entity was last scheduled and last completed.  What lies in the future
was a negative number of nanoseconds ago. -/
structure Executor (σ : Type) where
  schedule : σ → Report → Policy → Except RepairError (Option Task) × σ
  execute : σ → Task → Except RepairError Bool × σ
  repairs : σ → String → Timespan → Except RepairError Nat × σ
  events : σ → String → Timespan → Except RepairError Nat × σ
  sinceScheduled : σ → String → Except RepairError (Option Int) × σ
  sinceCompleted : σ → String → Except RepairError (Option Int) × σ

/-- Something so many nanoseconds ago is within a time span; so is all that lies in the future. -/
def isWithin (age : Int) (window : Timespan) : Bool := decide (age ≤ window.nanos)

inductive Operation
  | schedule
  | execute
  | repairs
  | events
  | sinceScheduled
  | sinceCompleted
  deriving DecidableEq

namespace Operation

def name : Operation → String
  | .schedule => "schedule"
  | .execute => "execute"
  | .repairs => "completed_repairs"
  | .events => "health_events"
  | .sinceScheduled => "last_scheduled"
  | .sinceCompleted => "last_completed"

def ofName? (name : String) : Option Operation :=
  [Operation.schedule, .execute, .repairs, .events, .sinceScheduled, .sinceCompleted].find? (·.name == name)

end Operation

/-- Fails as the first fault of an operation says, or goes on. -/
def failOr (faults : List (Operation × RepairError)) (op : Operation) (w : σ) (result : Except RepairError α × σ) :
    Except RepairError α × σ :=
  match faults.find? (·.1 = op) with
  | some (_, e) => (.error e, w)
  | none => result

/-- **A cluster with faults**: an operation that has one fails and does nothing. -/
def Executor.failing (x : Executor σ) (faults : List (Operation × RepairError)) : Executor σ where
  schedule w r p := failOr faults .schedule w (x.schedule w r p)
  execute w t := failOr faults .execute w (x.execute w t)
  repairs w entity window := failOr faults .repairs w (x.repairs w entity window)
  events w property window := failOr faults .events w (x.events w property window)
  sinceScheduled w entity := failOr faults .sinceScheduled w (x.sinceScheduled w entity)
  sinceCompleted w entity := failOr faults .sinceCompleted w (x.sinceCompleted w entity)

end Remedy.Repair
