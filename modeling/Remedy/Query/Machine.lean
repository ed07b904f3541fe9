import Remedy.Query.Host
import Remedy.Stack
import Remedy.Term.Bindings
/-!
# Query.Machine — the state of a search

A search runs frames, one after the other: the rest of a rule's body, the exit of a call, the end of a negation that
has succeeded.  What it may come back to lies on a stack of choices.  Each choice knows the bindings of its moment,
the frames that follow it, and the alternatives that have not been tried.
-/
namespace Remedy.Query

/-- What limits a query, and whether its goals are written into the journal: the most steps, and the most milliseconds
for an answer of the application. -/
structure Options where
  maxSteps : Nat
  limit : Option Nat
  trace : Bool
  deriving DecidableEq

def Options.standard : Options := ⟨1000000, none, false⟩

/-- **A rule that is being run**: the module of the rule, its variables and the slot of the first, the height of the
stack when its predicate was called, and its context. -/
structure Activation where
  owner : Nat
  scope : VarTable
  base : Nat
  barrier : Nat
  context : Nat

/-- **What is still to be done**: goals of a rule, the exit of a call, or to fail because a negated goal has
succeeded. -/
inductive Frame
  | body (act : Activation) (goals : List (Goal Callee))
  | exit (context : Nat)
  | negated (height : Nat)

/-- The alternatives of a call that have not been tried. -/
inductive Untried
  | clauses (owner : Nat) (rest : List (Clause Callee))
  | facts (rest : List Call)
  | answers (e : External) (args : Call) (asked : Nat)

/-- What comes of going back to a choice: the goal of a negation has failed, or a call is tried again. -/
inductive Pending
  | negation
  | call (goal : Call) (context : Nat) (tried : Bool) (untried : Untried)

/-- **A choice**: the bindings to go back to, the frames that follow, and what is pending. -/
structure Choice where
  checkpoint : Checkpoint
  after : List Frame
  pending : Pending

def Choice.context? (c : Choice) : Option Nat :=
  match c.pending with
  | .negation => none
  | .call _ context _ _ => some context

/-- A call of the application whose next answer is wanted. -/
structure Inquiry where
  checkpoint : Checkpoint
  after : List Frame
  goal : Call
  context : Nat
  predicate : External
  args : Call
  asked : Nat

/-- **The state of a search.** -/
structure Machine (σ : Type) where
  world : σ
  session : Session
  bindings : Bindings
  choices : Stack Choice
  steps : Nat

/-- **What a search does next.** -/
inductive Control
  | run (frames : List Frame)
  | backtrack
  | ask (i : Inquiry)

inductive Outcome
  | more (c : Control)
  | solved
  | exhausted
  | failed (e : QueryError)

/-- **What a search works with**: the modules, the application and the options. -/
structure Engine (σ : Type) where
  library : Library
  host : Host σ
  options : Options

namespace Machine

def onSession (m : Machine σ) (f : Session → Session) : Machine σ := { m with session := f m.session }

def onTree (m : Machine σ) (f : Context.Tree → Context.Tree) : Machine σ :=
  { m with session := m.session.onTree f }

def rewind (m : Machine σ) (c : Checkpoint) : Machine σ := { m with bindings := m.bindings.rewind c }

def push (m : Machine σ) (c : Choice) : Machine σ := { m with choices := m.choices.push c }

/-- **Counts a step**; the limit is checked before the cancellation. -/
def tick (m : Machine σ) (o : Options) : Option QueryError × Machine σ :=
  let m := { m with steps := m.steps + 1 }
  if o.maxSteps < m.steps then (some (.stepLimit o.maxSteps), m)
  else if m.session.isCancelled then (some .cancelled, m)
  else (none, m)

/-- **Gives up all choices above a height.**  Their contexts are detached, those of the oldest first, except the one
to keep. -/
def cut (m : Machine σ) (height : Nat) (keep : Option Nat) : Machine σ :=
  -- the call whose rule cuts goes on, so its context is the one to keep
  let contexts := (m.choices.above height).filterMap Choice.context?
  { m with
    choices := m.choices.cut height
    session := m.session.onTree ((contexts.filter (some · != keep)).foldl Context.Tree.detach) }

def release (m : Machine σ) : Machine σ := m.cut 0 none

end Machine

end Remedy.Query
