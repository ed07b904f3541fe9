import Remedy.Repair.Executor
/-!
# Repair.Ledger — repairs that are only written down

A ledger stands in for a cluster.  It writes down what is scheduled, and a repair is completed as soon as it is to be
carried out.  A task's number is its place among the records, which are never taken away.  Its clock counts
nanoseconds and moves on by a microsecond whenever it is read, so what has happened lies strictly before what is asked
about it.
-/
namespace Remedy.Repair

/-- **A repair in the ledger**, with the moments at which it was scheduled and completed. -/
structure Record where
  task : Task
  scheduledAt : Int
  completedAt : Option Int
  succeeded : Bool
  deriving DecidableEq

/-- The record of a repair that is completed at a moment. -/
def Record.complete (moment : Int) (r : Record) : Record := { r with completedAt := some moment, succeeded := true }

/-- **A ledger**: its clock, the repairs in the order in which they were written down, the health events, and the
actions that it declines. -/
structure Ledger where
  clock : Int
  records : List Record
  events : List (String × Int)
  declined : List Action
  deriving DecidableEq

namespace Ledger

def empty : Ledger := ⟨0, [], [], []⟩

/-- What the clock moves on by when it is read, in nanoseconds. -/
def tick : Int := 1000

def now (l : Ledger) : Int × Ledger := (l.clock + tick, { l with clock := l.clock + tick })

/-- Declines an action from now on. -/
def decline (l : Ledger) (a : Action) : Ledger := { l with declined := a :: l.declined }

/-- Writes down a health event of so many nanoseconds ago. -/
def noteEvent (l : Ledger) (property : String) (age : Int) : Ledger :=
  let (moment, l) := l.now
  { l with events := l.events ++ [(property, moment - age)] }

/-- The ledger with one more record, whose task gets the next number. -/
def write (l : Ledger) (r : Report) (p : Policy) (scheduledAt : Int) (completedAt : Option Int) : Task × Ledger :=
  let task : Task := ⟨l.records.length, r.entity, p, r.errorCode⟩
  (task, { l with records := l.records ++ [⟨task, scheduledAt, completedAt, completedAt.isSome⟩] })

/-- Writes down a successful repair of so many nanoseconds ago. -/
def noteCompleted (l : Ledger) (r : Report) (a : Action) (age : Int) : Ledger :=
  let (moment, l) := l.now
  (l.write r (.plain a .zero) (moment - age) (some (moment - age))).2

/-- **Schedules a repair**, unless its action is declined. -/
def schedule (l : Ledger) (r : Report) (p : Policy) : Option Task × Ledger :=
  -- what is declined leaves no trace, not even on the clock
  if l.declined.contains p.action then (none, l)
  else
    let (moment, l) := l.now
    let (task, l) := l.write r p moment none
    (some task, l)

/-- **Completes a task**, if it is one of the ledger's. -/
def execute (l : Ledger) (t : Task) : Except RepairError Bool × Ledger :=
  if t.id < l.records.length then
    let (moment, l) := l.now
    (.ok true, { l with records := l.records.modify t.id (Record.complete moment) })
  else (.error (.backend ("unknown repair task " ++ toString t.id)), l)

def recordsOf (l : Ledger) (entity : String) : List Record := l.records.filter (·.task.entity == entity)

/-- **How many repairs of an entity were successful within a time span.** -/
def repairs (l : Ledger) (entity : String) (window : Timespan) : Nat × Ledger :=
  let (moment, l) := l.now
  (((l.recordsOf entity).filter fun r =>
    r.succeeded && r.completedAt.any fun done => isWithin (moment - done) window).length, l)

/-- **How many health events of a property there were within a time span.** -/
def eventCount (l : Ledger) (property : String) (window : Timespan) : Nat × Ledger :=
  let (moment, l) := l.now
  ((l.events.filter fun (p, seen) => p == property && isWithin (moment - seen) window).length, l)

def sinceLast (l : Ledger) (moments : List Int) : Option Int × Ledger :=
  let (moment, l) := l.now
  (moments.max?.map (moment - ·), l)

def sinceScheduled (l : Ledger) (entity : String) : Option Int × Ledger :=
  l.sinceLast ((l.recordsOf entity).map (·.scheduledAt))

def sinceCompleted (l : Ledger) (entity : String) : Option Int × Ledger :=
  l.sinceLast ((l.recordsOf entity).filterMap (·.completedAt))

/-- **The ledger as a cluster.** -/
def executor : Executor Ledger where
  schedule l r p := let (t, l) := l.schedule r p; (.ok t, l)
  execute := execute
  repairs l entity window := let (n, l) := l.repairs entity window; (.ok n, l)
  events l property window := let (n, l) := l.eventCount property window; (.ok n, l)
  sinceScheduled l entity := let (age, l) := l.sinceScheduled entity; (.ok age, l)
  sinceCompleted l entity := let (age, l) := l.sinceCompleted entity; (.ok age, l)

def tasks (l : Ledger) : List Task := l.records.map (·.task)

def completed (l : Ledger) (a : Action) : Nat :=
  (l.records.filter fun r => r.completedAt.isSome && r.task.policy.action == a).length

end Ledger

end Remedy.Repair
