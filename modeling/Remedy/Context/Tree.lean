import Remedy.Context.Forest
import Remedy.Stack
/-!
# Context.Tree — who watches the contexts

A subscriber receives the events from its subscription on, as long as it has room for them; what it has no room for is
counted as dropped.  One that has gone away is forgotten at the next event.  Work can be queued for the moment when
the root becomes stable; it runs once, in the order in which it was queued, after the events of that moment.
-/
namespace Remedy.Context

/-- The events that a subscriber has room for. -/
def capacity : Nat := 1024

/-- **A subscriber**: its number, the events it has not read yet, and whether it is still there. -/
structure Subscriber where
  id : Nat
  unread : Stack Event
  present : Bool

/-- Queued work: a wake-up for one who waits, or work with a label to be recorded. -/
inductive Task
  | wake
  | label (s : String)
  deriving DecidableEq

/-- **The contexts of a query, with those who watch them**: work that waits and work that has run, in order, the
subscribers, the number of subscriptions ever made, and the number of events dropped. -/
structure Tree where
  forest : Forest
  waiting : List Task
  ran : List Task
  subscribers : List Subscriber
  subscriptions : Nat
  dropped : Nat

/-- The events that a subscriber has no room for. -/
def Subscriber.overflow (s : Subscriber) (events : List Event) : Nat :=
  if s.present then events.length - (capacity - s.unread.height) else 0

/-- The subscriber with the events that it has room for. -/
def Subscriber.receive (s : Subscriber) (events : List Event) : Subscriber :=
  { s with unread := (events.take (capacity - s.unread.height)).foldl Stack.push s.unread }

namespace Tree

def root : Tree := ⟨.root, [], [], [], 0, 0⟩

/-- Gives events to the subscribers who are there, and forgets the others. -/
def publish (t : Tree) (events : List Event) : Tree :=
  if events.isEmpty then t
  else
    -- one who has gone away is forgotten here, and drops nothing
    { t with
      subscribers := (t.subscribers.filter (·.present)).map (·.receive events)
      dropped := t.subscribers.foldl (fun n s => n + s.overflow events) t.dropped }

def runWaiting (t : Tree) : Tree := { t with waiting := [], ran := t.ran ++ t.waiting }

/-- **Changes the contexts** and publishes the events of the change. -/
def change (t : Tree) (f : Forest → Forest × List Event) : Tree :=
  let (forest, events) := f t.forest
  let t := ({ t with forest } : Tree).publish events
  -- only the root says that it is stable, and those who watch hear of it before the work runs
  if events.contains .stable then t.runWaiting else t

/-- Makes a child of a context; its number comes with the result. -/
def create (t : Tree) (parent : Nat) : Nat × Tree := (t.forest.size, t.change (·.create parent))

def setStable (t : Tree) (id : Nat) (b : Bool) : Tree := t.change (·.setStable id b)

def setSuspended (t : Tree) (id : Nat) (b : Bool) : Tree := t.change (·.setSuspended id b)

def cancel (t : Tree) (id : Nat) : Tree := t.change (·.cancel id)

def clear (t : Tree) (id : Nat) : Tree := t.change (·.clear id)

def detach (t : Tree) (id : Nat) : Tree := t.change (·.detach id)

/-- **Queues work for the moment when the root is stable**, which may be now. -/
def whenStable (t : Tree) (task : Task) : Tree :=
  if t.forest.isStable 0 then { t with ran := t.ran ++ [task] } else { t with waiting := t.waiting ++ [task] }

/-- **Adds a subscriber**; its number comes with the result. -/
def subscribe (t : Tree) : Nat × Tree :=
  (t.subscriptions,
    { t with
      subscribers := t.subscribers ++ [⟨t.subscriptions, .empty, true⟩]
      subscriptions := t.subscriptions + 1 })

def updateSubscriber (t : Tree) (id : Nat) (f : Subscriber → Subscriber) : Tree :=
  { t with subscribers := t.subscribers.map fun s => if s.id = id then f s else s }

def unsubscribe (t : Tree) (id : Nat) : Tree := t.updateSubscriber id fun s => { s with present := false }

/-- The first `n` events that a subscriber has not read, in their order; reading them makes room. -/
def readUpTo (t : Tree) (id n : Nat) : List Event × Tree :=
  (((t.subscribers.find? (·.id == id)).map fun s => (s.unread.cut n).items.reverse).getD [],
    t.updateSubscriber id fun s => { s with unread := s.unread.skip n })

/-- All events that a subscriber has not read, in their order. -/
def read (t : Tree) (id : Nat) : List Event × Tree := t.readUpTo id capacity

end Tree

end Remedy.Context
