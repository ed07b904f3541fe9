import Remedy.Query.Error
/-!
# Facts — what has been asserted during a query

Facts are calls without variables and templates, kept in one order; the facts under a functor are those of that
functor in that order.  A snapshot of them is a list of its own, which later changes leave as it is.  What has been
added at the end is kept apart from the rest, so that adding takes the same time at either end (`all_push`,
`all_pushFront`).
-/
namespace Remedy

/-- **The asserted facts**: those in front in their order, and those behind them, the last first. -/
structure Facts where
  front : List Call
  back : List Call

namespace Facts

def empty : Facts := ⟨[], []⟩

/-- **All facts, in order.** -/
def all (f : Facts) : List Call := f.front ++ f.back.reverse

def under (f : Facts) (functor : String) : List Call := f.all.filter (·.functor == functor)

def push (f : Facts) (fact : Call) : Facts := { f with back := fact :: f.back }

def pushFront (f : Facts) (fact : Call) : Facts := { f with front := fact :: f.front }

theorem all_empty : empty.all = [] := rfl

theorem all_push (f : Facts) (fact : Call) : (f.push fact).all = f.all ++ [fact] := by
  simp only [all, push, List.reverse_cons, List.append_assoc]

theorem all_pushFront (f : Facts) (fact : Call) : (f.pushFront fact).all = fact :: f.all := rfl

/-- **Adds a fact** at the end or at the front. -/
def assert (f : Facts) (fact : Call) (atEnd : Bool) : Except QueryError Facts :=
  if !fact.isGround then .error (.invalidGoal fact.display .notGround)
  else .ok (if atEnd then f.push fact else f.pushFront fact)

def takeFirst (p : Call → Bool) : List Call → Option (Call × List Call)
  | [] => none
  | c :: rest => if p c then some (c, rest) else (takeFirst p rest).map fun (d, rest) => (d, c :: rest)

/-- **Takes the first fact under a functor that passes a test.** -/
def retract? (f : Facts) (functor : String) (p : Call → Bool) : Option (Call × Facts) :=
  (takeFirst (fun c => c.functor == functor && p c) f.all).map fun (c, rest) => (c, ⟨rest, []⟩)

end Facts

end Remedy
