import Remedy.Query.Goals
import Remedy.Repair.Executor
import Remedy.Repair.Request
/-!
# Repair.Primitive — what rules can ask of the cluster

The application of a repair is made of primitives.  They ask for repairs of the entity that is reported on, look into
its history, and write messages.  Each is asked once and answers at once.
-/
namespace Remedy.Repair

/-- What happens to a repair, when it goes well. -/
inductive Milestone
  | scheduled
  | completed
  deriving DecidableEq

/-- What is counted. -/
inductive Series
  | repairs
  | healthEvents
  deriving DecidableEq

/-- **A primitive**: to ask for an action, to tell whether a repair has reached a milestone within a time span, to
count what has happened within a time span, or to write a message. -/
inductive Primitive
  | act (a : Action)
  | inside (m : Milestone)
  | history (s : Series)
  | emit
  deriving DecidableEq

namespace Primitive

def all : List Primitive :=
  Action.all.map .act ++ [.inside .scheduled, .inside .completed, .history .repairs, .history .healthEvents, .emit]

def name : Primitive → String
  | .act a => a.name
  | .inside .scheduled => "CheckInsideScheduleInterval"
  | .inside .completed => "CheckInsideRunInterval"
  | .history .repairs => "GetRepairHistory"
  | .history .healthEvents => "GetHealthEventHistory"
  | .emit => "EmitMessage"

def least : Primitive → Nat
  | .act (.restart _) => 0
  | .act .deleteFiles => 1
  | .inside _ => 1
  | .history _ => 2
  | .emit => 1

def most : Primitive → Option Nat
  | .act (.restart _) => some 3
  | .act .deleteFiles => none
  | .inside _ => some 1
  | .history _ => some 2
  | .emit => none

def contract : Primitive → Contract
  | .act .deleteFiles => [(.position 0, .input)]
  | .inside _ => [(.position 0, .input)]
  | .history _ => [(.position 0, .output), (.position 1, .input)]
  | _ => []

/-- A primitive as a predicate of the application; its handle is its place among all. -/
def declared (handle : Nat) (p : Primitive) : External := ⟨p.name, p.least, p.most, p.contract, true, handle⟩

/-- **All primitives for modules of rules.** -/
def provider : Provider :=
  (all.zipIdx.map fun (p, handle) => declared handle p).foldl (fun known e => known.register e.name (.predicate e)) .none

end Primitive

/-- An error of the cluster as a failure of the predicate that has met it. -/
def failed (name : String) (e : RepairError) : QueryError := .predicate name e.message

/-- **Has a repair carried out.**  It fails if it is declined.  A dry run schedules it and does no more. -/
def carryOut (x : Executor σ) (settings : RepairSettings) (report : Report) (policy : Policy) (w : σ) :
    Except QueryError Bool × σ :=
  match x.schedule w report policy with
  | (.error e, w) => (.error (failed policy.action.name e), w)
  | (.ok none, w) => (.ok false, w)
  | (.ok (some task), w) =>
    if settings.dryRun then (.ok true, w)
    else
      let (result, w) := x.execute w task
      (result.mapError (failed policy.action.name), w)

def policyOf (settings : RepairSettings) (c : Call) : Action → Except QueryError Policy
  | .restart t => restartPolicy settings t c
  | .deleteFiles => deletionPolicy settings c

/-- How long ago a repair of an entity last reached a milestone. -/
def since (x : Executor σ) (m : Milestone) (entity : String) (w : σ) : Except RepairError (Option Int) × σ :=
  match m with
  | .scheduled => x.sinceScheduled w entity
  | .completed => x.sinceCompleted w entity

/-- **Tells whether a repair of the entity has reached a milestone within a time span.**  In no time nothing happens,
and nobody is asked. -/
def isInside (x : Executor σ) (m : Milestone) (report : Report) (c : Call) (w : σ) : Except QueryError Bool × σ :=
  let name := (Primitive.inside m).name
  match c.readTimespan 0 "Interval" with
  | .error e => (.error e, w)
  | .ok none =>
    (.error (.predicate name "one timespan argument is required (hh:mm:ss, for example 00:30:00)"), w)
  | .ok (some window) =>
    if window.isZero then (.ok false, w)
    else
      let (age, w) := since x m report.entity w
      ((age.mapError (failed name)).map (·.any (isWithin · window)), w)

def countOf (x : Executor σ) (s : Series) (report : Report) (window : Timespan) (w : σ) :
    Except RepairError Nat × σ :=
  match s with
  | .repairs => x.repairs w report.entity window
  | .healthEvents => x.events w report.eventProperty window

/-- **Counts a series within a time span**, which is empty if it is not given. -/
def history (x : Executor σ) (s : Series) (report : Report) (c : Call) (w : σ) : Except QueryError Nat × σ :=
  match c.readTimespan 1 "TimeWindow" with
  | .error e => (.error e, w)
  | .ok given =>
    let window := given.getD .zero
    if window.isZero then (.ok 0, w)
    else
      let (n, w) := countOf x s report window w
      (n.mapError (failed (Primitive.history s).name), w)

def decided (success : Bool) : Option Query.Answer := if success then some [] else none

/-- The answer that is a number, for the first argument. -/
def counted (n : Nat) : Option Query.Answer :=
  some [(.position 0, .const (.int (Int64.ofInt (min n 0x7FFFFFFFFFFFFFFF))))]

def messageOf (c : Call) : String := String.join (c.args.map (·.value.toText))

/-- **What a primitive answers**, and the world and the session as it leaves them. -/
def answer (x : Executor σ) (settings : RepairSettings) (report : Report) (p : Primitive) (c : Call) (w : σ)
    (s : Session) : Except QueryError (Option Query.Answer) × σ × Session :=
  match p with
  | .act a =>
    match policyOf settings c a with
    | .error e => (.error e, w, s)
    | .ok policy =>
      let (success, w) := carryOut x settings report policy w
      (success.map decided, w, s)
  | .inside m =>
    let (success, w) := isInside x m report c w
    (success.map decided, w, s)
  | .history series =>
    let (n, w) := history x series report c w
    (n.map counted, w, s)
  | .emit => (.ok (decided true), w, s.note (messageOf c))

/-- **The application of a repair.**  No other handles are given out than those of primitives. -/
def host (x : Executor σ) (settings : RepairSettings) (report : Report) : Query.Host σ :=
  ⟨fun w s e c _ =>
    match Primitive.all[e.handle]? with
    | some p =>
      let (result, w, s) := answer x settings report p c w s
      ⟨w, s, .millis 0, result⟩
    | none => ⟨w, s, .millis 0, .ok none⟩⟩

end Remedy.Repair
