import Remedy.Program.Compile
import Remedy.Query.Error
import Remedy.Query.Search
/-!
# Query — the solutions of a goal, one at a time

A query gives its next solution when it is asked for it.  It ends when there are no more, when something fails, or
when it is closed; then all its contexts are gone and the root is stable.  A query does not own the session it runs
in, nor the world of the application: both may change between two solutions.
-/
namespace Remedy

mutual

/-- The variables of a term that have a name, each with its slot, in the order in which they appear. -/
def Term.named : Term → List (String × Nat)
  | .const _ => []
  | .var name slot => if name = "_" then [] else [(name, slot)]
  | .compound _ args => Term.namedOf args
  | .template _ => []
  | .nil => []

def Term.namedOf : List (Arg Term) → List (String × Nat)
  | [] => []
  | a :: rest => Term.named a.value ++ Term.namedOf rest

end

/-- The first name of every slot. -/
def firstNames (named : List (String × Nat)) : List (String × Nat) :=
  named.foldl (fun names v => if names.any (·.2 == v.2) then names else names ++ [v]) []

/-- What the variables of a goal stand for, in the order of the goal. -/
abbrev Solution := List (String × Term)

namespace Query

/-- How far a query has come: it has not begun, it has given a solution, or it has ended. -/
inductive Status
  | fresh (frames : List Frame)
  | yielded
  | ended

end Query

/-- **A query**: the variables it answers for, the bindings it began with, and the state of its search. -/
structure Query where
  names : List (String × Nat)
  origin : Checkpoint
  status : Query.Status
  bindings : Bindings
  choices : Stack Query.Choice
  steps : Nat

namespace Query

/-- **A query for a goal**, on behalf of a module of the library; the goal's variables are those of the table. -/
def ofGoal (l : Library) (owner : Nat) (goal : Call) (vars : VarTable) : Except CompileError Query :=
  match l.module? owner with
  | none => .error (.undefinedPredicate goal.functor goal.display)
  | some m =>
    (m.resolveGoal l goal).map fun g =>
      let (_, bindings) := Bindings.empty.allocate (max vars.size goal.span)
      ⟨firstNames (Term.namedOf goal.args), bindings.checkpoint, .fresh [.body ⟨owner, vars, 0, 0, 0⟩ [g]], bindings,
        .empty, 0⟩

/-- **A query for a goal as text.** -/
def ofText (l : Library) (owner : Nat) (text : String) : Except Failure Query :=
  match Term.parse .empty text with
  | .error e => .error (.query (.invalidGoal text (.notSyntax e.cause)))
  | .ok (t, vars) =>
    match t.asFact? with
    | none => .error (.query (.invalidGoal text .notACall))
    | some goal =>
      match ofGoal l owner goal vars with
      | .ok q => .ok q
      | .error e => .error (.compile e)

def machine (q : Query) (world : σ) (s : Session) : Machine σ := ⟨world, s, q.bindings, q.choices, q.steps⟩

def solution (q : Query) : Solution := q.names.map fun (name, slot) => (name, q.bindings.resolve (.var name slot))

/-- **Ends a query**: its choices are given up, the contexts below the root are detached, and the root is stable. -/
def finish (q : Query) (m : Machine σ) : Query × σ × Session :=
  let m := m.release.onTree fun t => (t.clear 0).setStable 0 true
  ({ q with status := .ended, bindings := m.bindings, choices := m.choices, steps := m.steps }, m.world, m.session)

/-- Goes on with a query, and ends it unless there is another solution. -/
def goOn (e : Engine σ) (q : Query) (m : Machine σ) (c : Control) :
    Except QueryError (Option Solution) × Query × σ × Session :=
  match m.run e c with
  | (.ok true, m) =>
    let q := { q with status := .yielded, bindings := m.bindings, choices := m.choices, steps := m.steps }
    (.ok (some q.solution), q, m.world, m.session)
  | (.ok false, m) => (.ok none, q.finish m)
  -- a failed search leaves none of its bindings behind
  | (.error cause, m) => (.error cause, q.finish (m.rewind q.origin))

/-- **The next solution**, or none if there are no more. -/
def next (e : Engine σ) (q : Query) (world : σ) (s : Session) :
    Except QueryError (Option Solution) × Query × σ × Session :=
  match q.status with
  | .ended => (.ok none, q, world, s)
  | .fresh frames => q.goOn e (q.machine world s) (.run frames)
  | .yielded => q.goOn e (q.machine world s) .backtrack

/-- **Closes a query** that has not ended. -/
def close (q : Query) (s : Session) : Query × Session :=
  match q.status with
  | .ended => (q, s)
  | _ =>
    let (q, _, s) := q.finish (q.machine () s)
    (q, s)

/-- **Tells whether a goal has a solution**; only the first is searched for. -/
def holds (e : Engine σ) (owner : Nat) (goal : Call) (world : σ) (s : Session) : Except Failure Bool × σ × Session :=
  match ofGoal e.library owner goal .empty with
  | .error cause => (.error (.compile cause), world, s)
  | .ok q =>
    match q.next e world s with
    | (.error cause, _, world, s) => (.error (.query cause), world, s)
    | (.ok found, q, world, s) => (.ok found.isSome, world, (q.close s).2)

end Query

end Remedy
