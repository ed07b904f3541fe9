import Remedy.Program.Basic
import Remedy.Session
/-!
# Query.Host — the application that a query asks

The predicates of the application are known to a query by their declarations alone; what they answer comes from a
host.  A host has a world of its own, which it may change when it is asked, as it may change the session.  An answer
may take time: a query waits for it no longer than its limit, and gives up when it is cancelled meanwhile.
-/
namespace Remedy.Query

/-- **An answer**: terms for arguments of the call.  Other arguments are left alone. -/
abbrev Answer := List (ArgKey × Term)

/-- How long an answer takes. -/
inductive Delay
  | millis (n : Nat)
  | forever
  deriving DecidableEq

/-- The answer comes within a limit, if there is one. -/
def Delay.within : Delay → Option Nat → Bool
  | .millis _, none => true
  | .millis n, some limit => decide (n ≤ limit)
  | .forever, _ => false

/-- **What a host replies**: its world and the session as it leaves them, and the next answer, none when there are no
more, or an error. -/
structure Reply (σ : Type) where
  world : σ
  session : Session
  delay : Delay
  result : Except QueryError (Option Answer)

/-- **An application.**  It is asked for the next answer of a call, whose variables have been replaced by what they
stand for, and is told how many times it has been asked before. -/
structure Host (σ : Type) where
  ask : σ → Session → External → Call → Nat → Reply σ

def Host.silent : Host Unit := ⟨fun w s _ _ _ => ⟨w, s, .millis 0, .ok none⟩⟩

/-- The result of a reply as it is seen by a query that may have been cancelled meanwhile and has a limit in
milliseconds: what comes at once counts, whatever has happened. -/
def Reply.seen (r : Reply σ) (context : Nat) (limit : Option Nat) (name : String) :
    Except QueryError (Option Answer) :=
  -- an answer that is there at once is taken before anybody looks whether the context is cancelled
  if r.delay = .millis 0 then r.result
  else if r.session.tree.forest.isCancelled context then .error .cancelled
  else if r.delay.within limit then r.result
  else
    match limit with
    | some millis => .error (.timeout name millis)
    | none => .error .cancelled

/-- **Asks for the next answer of a call** in a context.  Nobody is asked in a cancelled context; a predicate that
answers once is asked once. -/
def Host.next (h : Host σ) (limit : Option Nat) (world : σ) (s : Session) (context : Nat) (e : External) (args : Call)
    (asked : Nat) : Except QueryError (Option Answer) × σ × Session :=
  if s.tree.forest.isCancelled context then (.error .cancelled, world, s)
  else if e.once && asked != 0 then (.ok none, world, s)
  else
    let r := h.ask world s e args asked
    (r.seen context limit e.name, r.world, r.session)

end Remedy.Query
