/-!
# Context.Forest — the contexts of a query and their flags

Every call of a predicate runs in a context of its own, a child of the context of the rule that calls it; context 0 is
the root.  A context is stable when it is stable itself and so are all its children; it is suspended when it is
suspended itself, is cancelled, or has a suspended parent; it is cancelled for good, together with its descendants.
A detached context keeps its number and its parent but is no longer a child.  Every operation gives the transitions
that it has made, in order.
-/
namespace Remedy.Context

/-- **A transition that can be observed**: of a context, or of the root becoming stable. -/
inductive Event
  | suspended (id : Nat)
  | resumed (id : Nat)
  | cancelled (id : Nat)
  | stable
  deriving DecidableEq

/-- **A context**: its place in the tree, the newest child first, and its flags, its own and those that take others
into account. -/
structure Node where
  parent : Option Nat
  children : List Nat
  localStable : Bool
  stable : Bool
  localSuspended : Bool
  suspended : Bool
  cancelled : Bool
  attached : Bool
  deriving DecidableEq

def Node.fresh (parent : Option Nat) (suspended cancelled : Bool) : Node :=
  ⟨parent, [], false, false, false, suspended, cancelled, true⟩

/-- **All contexts ever made**, in the order in which they were made. -/
structure Forest where
  nodes : Array Node

namespace Forest

def root : Forest := ⟨#[.fresh none false false]⟩

def size (f : Forest) : Nat := f.nodes.size

def node? (f : Forest) (id : Nat) : Option Node := f.nodes[id]?

def update (f : Forest) (id : Nat) (g : Node → Node) : Forest := ⟨f.nodes.modify id g⟩

def has (f : Forest) (flag : Node → Bool) (id : Nat) : Bool := (f.node? id).any flag

def isCancelled (f : Forest) (id : Nat) : Bool := f.has Node.cancelled id

/-- The context and all its children are stable. -/
def isStable (f : Forest) (id : Nat) : Bool := f.has Node.stable id

def isAttached (f : Forest) (id : Nat) : Bool := f.has Node.attached id

def shouldBeStable (f : Forest) (n : Node) : Bool := n.localStable && n.children.all f.isStable

/-- Brings the stable flags up to date from a context upwards, as far as they change. -/
def settle : Nat → Nat → Forest → Forest × List Event
  | 0, _, f => (f, [])
  | fuel + 1, id, f =>
    match f.node? id with
    | none => (f, [])
    | some n =>
      let stable := f.shouldBeStable n
      -- what is detached has no say, and an unchanged flag changes nothing above
      if !n.attached || stable == n.stable then (f, [])
      else
        let f := f.update id fun n => { n with stable }
        let here := if id = 0 && stable then [.stable] else []
        match n.parent with
        | none => (f, here)
        | some p =>
          let (f, above) := settle fuel p f
          (f, here ++ above)

def settleFrom (f : Forest) (id : Nat) : Forest × List Event := settle f.size id f

def shouldBeSuspended (f : Forest) (n : Node) : Bool :=
  n.localSuspended || n.cancelled || n.parent.any fun p => f.has Node.suspended p

/-- Brings the suspended flags up to date from the given contexts downwards, as far as they change; of the children of
a context the last comes first. -/
def spreadSuspension : Nat → List Nat → Forest → Forest × List Event
  | 0, _, f => (f, [])
  | _ + 1, [], f => (f, [])
  | fuel + 1, id :: rest, f =>
    match f.node? id with
    | none => spreadSuspension fuel rest f
    | some n =>
      let suspended := f.shouldBeSuspended n
      if suspended == n.suspended then spreadSuspension fuel rest f
      else
        -- the children come before what is left: the tree is gone down depth first
        let (g, more) := spreadSuspension fuel (n.children ++ rest) (f.update id fun n => { n with suspended })
        (g, (if suspended then .suspended id else .resumed id) :: more)

/-- Cancels the given contexts and their descendants, level by level; `below` holds the next level as far as it is
known, the last context first. -/
def spreadCancellation : Nat → List Nat → List Nat → Forest → Forest × List Event
  | 0, _, _, f => (f, [])
  | _ + 1, [], [], f => (f, [])
  -- the level is done; the next has been gathered backwards
  | fuel + 1, [], below, f => spreadCancellation fuel below.reverse [] f
  | fuel + 1, id :: rest, below, f =>
    match f.node? id with
    | none => spreadCancellation fuel rest below f
    | some n =>
      let (g, more) := spreadCancellation fuel rest (n.children ++ below)
        (f.update id fun n => { n with cancelled := true, suspended := true })
      -- a context that is cancelled counts as suspended, and says so once
      (g, (if n.suspended then [] else [.suspended id]) ++ more)

/-- **Makes a child**, suspended and cancelled like its parent.  Its number is the size of the forest before. -/
def create (f : Forest) (parent : Nat) : Forest × List Event :=
  let id := f.size
  let child := Node.fresh (some parent) (f.has Node.suspended parent) (f.has Node.cancelled parent)
  let f : Forest := ⟨f.nodes.push child⟩
  (f.update parent fun n => { n with children := id :: n.children }).settleFrom parent

/-- **Says whether a context is stable itself.** -/
def setStable (f : Forest) (id : Nat) (b : Bool) : Forest × List Event :=
  (f.update id fun n => { n with localStable := b }).settleFrom id

/-- **Says whether a context is suspended itself.** -/
def setSuspended (f : Forest) (id : Nat) (b : Bool) : Forest × List Event :=
  spreadSuspension (f.size + 1) [id] (f.update id fun n => { n with localSuspended := b })

/-- **Cancels a context** and its descendants, unless it is cancelled already. -/
def cancel (f : Forest) (id : Nat) : Forest × List Event :=
  if f.isCancelled id then (f, [])
  else
    let (f, events) := spreadCancellation (2 * f.size + 2) [id] [] f
    (f, events ++ [.cancelled id])

def release (f : Forest) (ids : List Nat) : Forest :=
  ids.foldl (fun f id => f.update id fun n => { n with attached := false }) f

/-- **Detaches all children of a context.** -/
def clear (f : Forest) (id : Nat) : Forest × List Event :=
  match f.node? id with
  | none => (f, [])
  | some n => ((f.release n.children).update id fun n => { n with children := [] }).settleFrom id

/-- **Detaches a context**, unless it is detached already. -/
def detach (f : Forest) (id : Nat) : Forest × List Event :=
  match f.node? id with
  | none => (f, [])
  | some n =>
    if !n.attached then (f, [])
    else
      let f := f.release [id]
      match n.parent with
      | none => (f, [])
      | some p => (f.update p fun n => { n with children := n.children.filter (· != id) }).settleFrom p

end Forest

end Remedy.Context
