import Remedy.Query.Arguments
import Remedy.Query.Host
/-!
# Query.Rehearsal — an application that follows a script

To try out rules without the application they are meant for, its predicates can be played from scripts.  A script says
what a predicate does when it is asked and what it answers; the calls are written down in order.
-/
namespace Remedy.Query

/-- What a script answers.  A decision accepts some texts of the first argument, or else has one outcome; a solver has
at most one answer; an enumeration has one answer after the other. -/
inductive Role
  | decide (accepted : Option (List String)) (outcome : Bool)
  | solve (answer : Option Answer)
  | enumerate (answers : List Answer)

/-- **A script**: a variable to set, a fact to assert, arguments to read, whether to cancel the query, how long to
take, how to fail, and what to answer.  An enumeration fails only after its last answer. -/
structure Script where
  setting : Option (String × Value)
  fact : Option Call
  reads : List (Wanted × Nat × String)
  cancels : Bool
  delay : Delay
  failure : Option String
  role : Role

/-- The first fault of the arguments that are read. -/
def readAll (c : Call) : List (Wanted × Nat × String) → Except QueryError Unit
  | [] => .ok ()
  | (wanted, position, name) :: rest =>
    let read : Except QueryError Unit :=
      match wanted with
      | .boolean => (c.readBool position name).map fun _ => ()
      | .timespan => (c.readTimespan position name).map fun _ => ()
      | .integer => (c.readInt position name).map fun _ => ()
    match read with
    | .error e => .error e
    | .ok () => readAll c rest

namespace Script

def setVariable (p : Script) (s : Session) : Session :=
  match p.setting with
  | some (name, v) => s.setVariable name v
  | none => s

def assertFact (p : Script) (s : Session) : Except QueryError Session :=
  match p.fact with
  | some fact => s.assert fact true
  | none => .ok s

def failed (p : Script) (name : String) : Option QueryError := p.failure.map (.predicate name)

/-- **What the script answers.** -/
def answer (p : Script) (name : String) (c : Call) (asked : Nat) : Except QueryError (Option Answer) :=
  match p.role, p.failed name with
  | .enumerate answers, failure =>
    match answers[asked]?, failure with
    | some a, _ => .ok (some a)
    | none, some e => .error e
    | none, none => .ok none
  | _, some e => .error e
  | .decide none outcome, none => .ok (if outcome then some [] else none)
  | .decide (some accepted) _, none =>
    .ok (if c.args.head?.any fun a => accepted.contains a.value.display then some [] else none)
  | .solve a, none => .ok a

/-- **Plays a script.**  What it changes before a fault stays changed, and a fault takes no time. -/
def play (p : Script) (calls : Array String) (s : Session) (name : String) (c : Call) (asked : Nat) :
    Reply (Array String) :=
  let calls := calls.push c.display
  let s := p.setVariable s
  match p.assertFact s with
  | .error e => ⟨calls, s, .millis 0, .error e⟩
  | .ok s =>
    match readAll c p.reads with
    | .error e => ⟨calls, s, .millis 0, .error e⟩
    | .ok () =>
      let s := if p.cancels then s.onTree (·.cancel 0) else s
      ⟨calls, s, p.delay, p.answer name c asked⟩

end Script

/-- **An application that follows scripts**, found by the handles of its predicates; its world is the list of the calls
so far.  A predicate without a script has no answers. -/
def Host.rehearsal (scripts : Array Script) : Host (Array String) :=
  ⟨fun calls s e c asked =>
    match scripts[e.handle]? with
    | some p => p.play calls s e.name c asked
    | none => ⟨calls, s, .millis 0, .ok none⟩⟩

end Remedy.Query
