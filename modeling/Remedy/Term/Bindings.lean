import Remedy.Stack
import Remedy.Term.Basic
import Remedy.Value.Order
/-!
# Term.Bindings — what the variables stand for, and unification

Every variable has a slot, and a slot holds the term that its variable stands for, once it stands for one.  The trail
lists the slots in the order in which they were bound, so a checkpoint — the number of slots and the length of the
trail — is enough to undo all that came after it.  Unification binds a variable without looking for it in the term it
is bound to; bindings made before a failure stay, and the caller goes back to a checkpoint.
-/
namespace Remedy

/-- **The slots and what they hold**, and the slots that have been bound. -/
structure Bindings where
  slots : Array (Option Term)
  trail : Stack Nat

/-- A moment to go back to: how many slots there were, and how many of them were bound. -/
structure Checkpoint where
  trail : Nat
  slots : Nat
  deriving DecidableEq

namespace Bindings

def empty : Bindings := ⟨#[], .empty⟩

instance : Inhabited Bindings := ⟨empty⟩

def size (b : Bindings) : Nat := b.slots.size

/-- **Makes new slots**; the first of them comes with the result. -/
def allocate (b : Bindings) (count : Nat) : Nat × Bindings :=
  (b.slots.size, ⟨b.slots ++ Array.replicate count none, b.trail⟩)

def checkpoint (b : Bindings) : Checkpoint := ⟨b.trail.height, b.slots.size⟩

def release (slots : Array (Option Term)) (bound : List Nat) : Array (Option Term) :=
  bound.foldl (fun slots slot => slots.setIfInBounds slot none) slots

/-- **Undoes every binding and every new slot since the checkpoint.** -/
def rewind (b : Bindings) (c : Checkpoint) : Bindings :=
  ⟨(release b.slots (b.trail.above c.trail)).shrink c.slots, b.trail.cut c.trail⟩

def grow (b : Bindings) (slot : Nat) : Bindings :=
  if slot < b.slots.size then b else (b.allocate (slot + 1 - b.slots.size)).2

/-- **Binds a slot to a term.** -/
def bind (b : Bindings) (slot : Nat) (t : Term) : Bindings :=
  match b.grow slot with
  | ⟨slots, trail⟩ => ⟨slots.setIfInBounds slot (some t), trail.push slot⟩

def lookup? (b : Bindings) (slot : Nat) : Option Term := (b.slots[slot]?).getD none

/-- Follows the bindings of variables for at most so many steps. -/
def walkFor (b : Bindings) : Nat → Term → Term
  | 0, t => t
  | n + 1, .var name slot =>
    match b.lookup? slot with
    | some t => walkFor b n t
    | none => .var name slot
  | _ + 1, t => t

/-- **Follows the bindings of variables** to an unbound variable or another term. -/
def walk (b : Bindings) (t : Term) : Term := b.walkFor b.slots.size t

/-- Replaces bound variables, at most so many of them one inside the term of the other. -/
def resolveFor (b : Bindings) : Nat → Term → Term
  | 0, t => t
  | n + 1, t =>
    if t.isGround then t
    else t.bind fun name slot =>
      match b.lookup? slot with
      | some u => resolveFor b n u
      | none => .var name slot

/-- **The term with every bound variable replaced** by what it stands for. -/
def resolve (b : Bindings) (t : Term) : Term := b.resolveFor (b.slots.size + 1) t

def resolveCall (b : Bindings) (c : Call) : Call := ⟨c.functor, c.args.map fun a => ⟨a.name, b.resolve a.value⟩⟩

def valueOf? (b : Bindings) (t : Term) : Option Value := (b.walk t).asConst?

/-- Two constants unify when they are equal, numbers when they are equal as numbers. -/
def constsAgree (v w : Value) : Bool := v == w || (v.isNumeric && w.isNumeric && v.looselyEquals w)

/-- What is left to unify: two terms, or arguments of which one side lacks its partner. -/
inductive Equation
  | pair (a b : Term)
  | clash

/-- The pairs of arguments in the order of the head's; `goal` gives the partner under a key. -/
def namedEquations (goal : Call) (i : Nat) : List (Arg Term) → List Equation
  | [] => []
  | a :: rest =>
    match goal.get? (a.key i) with
    | some t => .pair t a.value :: namedEquations goal (i + 1) rest
    | none => [.clash]

/-- **What has to be unified for a goal to match a head.**  Without names the arguments pair up by position and must be
equally many; with a name on either side every argument of the head needs a partner under its key, and other
arguments of the goal do not count. -/
def callEquations (goal head : Call) : List Equation :=
  if goal.functor ≠ head.functor then [.clash]
  else if goal.hasNames || head.hasNames then namedEquations goal 0 head.args
  else if goal.arity ≠ head.arity then [.clash]
  else List.zipWith (fun a b => .pair a.value b.value) goal.args head.args

/-- What two terms leave to be unified after their variables have been followed: the bindings with one more, if one of
them is a variable, and the equations of their arguments, or none if they differ. -/
def unifyStep (b : Bindings) : Term → Term → Bindings × Option (List Equation)
  | .var _ i, .var m j => if i = j then (b, some []) else (b.bind i (.var m j), some [])
  | .var _ i, t => (b.bind i t, some [])
  | t, .var _ j => (b.bind j t, some [])
  | .const v, .const w => (b, if constsAgree v w then some [] else none)
  | .nil, .nil => (b, some [])
  | .compound f as, .compound g bs => (b, some (callEquations ⟨f, as⟩ ⟨g, bs⟩))
  | _, _ => (b, none)

/-- How far the unification of equations has come: they have all been unified or one has failed, or some are left. -/
inductive Progress
  | done (success : Bool)
  | left (es : List Equation)

/-- Unifies equations one after the other in at most so many steps. -/
def unifyFor : Nat → Bindings → List Equation → Bindings × Progress
  | _, b, [] => (b, .done true)
  | 0, b, es => (b, .left es)
  | _ + 1, b, .clash :: _ => (b, .done false)
  | n + 1, b, .pair s t :: rest =>
    match b.unifyStep (b.walk s) (b.walk t) with
    | (b, some more) => unifyFor n b (more ++ rest)
    | (b, none) => (b, .done false)

def Equation.size : Equation → Nat
  | .pair a b => a.size + b.size
  | .clash => 1

/-- One more than the greatest slot of a variable in an equation. -/
def Equation.span : Equation → Nat
  | .pair a b => max a.span b.span
  | .clash => 0

/-- The size of all that slots hold. -/
def weight (b : Bindings) : Nat := b.slots.foldl (fun n t => n + (t.map Term.size).getD 0) 0

/-- The number of slots, with those that terms mention before they are there. -/
def breadth (b : Bindings) (es : List Equation) : Nat :=
  es.foldl (fun n e => max n e.span) (b.slots.foldl (fun n t => max n ((t.map Term.span).getD 0)) b.slots.size)

/-- More steps than the unification of finite terms takes. -/
def enough (b : Bindings) (es : List Equation) : Nat :=
  Nat.pow (es.foldl (fun n e => n + e.size) (b.weight + 2)) (b.breadth es + 2)

/-- The steps that nearly every unification makes do with. -/
def usual : Nat := 10000

/-- **Unifies equations**, from the left; tells whether they have all been unified. -/
def unifyAll (b : Bindings) (es : List Equation) : Bindings × Bool :=
  -- the bound that always suffices is huge, and computed only if it is needed
  match unifyFor usual b es with
  | (b, .done success) => (b, success)
  | (b, .left es) =>
    match unifyFor (b.enough es) b es with
    | (b, .done success) => (b, success)
    | (b, .left _) => (b, false)

/-- **Unifies two terms.** -/
def unify (b : Bindings) (s t : Term) : Bindings × Bool := b.unifyAll [.pair s t]

/-- **Unifies a goal with the head of a rule, a fact or an answer.** -/
def unifyCall (b : Bindings) (goal head : Call) : Bindings × Bool := b.unifyAll (callEquations goal head)

end Bindings

/-- The two terms unify when none of their variables stands for anything yet. -/
def Term.unifiable (a b : Term) : Bool :=
  ((Bindings.empty.allocate (max a.span b.span)).2.unify a b).2

end Remedy
