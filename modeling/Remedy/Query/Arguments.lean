import Remedy.Query.Error
/-!
# Query.Arguments — how a predicate reads the arguments of its call

An argument is found under its name, or else at its position.  One that is missing, unbound or no constant counts as
not given; a constant of the wrong kind is an error of the goal.
-/
namespace Remedy.Call

def value? (c : Call) (position : Nat) (name : String) : Option Value :=
  (c.lookup? position name).bind Term.asConst?

def text? (c : Call) (position : Nat) (name : String) : Option String :=
  (c.value? position name).map Value.toText

def isUnbound (c : Call) (position : Nat) (name : String) : Bool :=
  (c.lookup? position name).any Term.isVar

/-- A constant read by `f`, which knows what it wants. -/
def readArg (c : Call) (wanted : Wanted) (f : Value → Option α) (position : Nat) (name : String) :
    Except QueryError (Option α) :=
  match c.value? position name with
  | none => .ok none
  | some v =>
    match f v with
    | some a => .ok (some a)
    | none => .error (.invalidGoal c.display (.badArgument name wanted v))

def readBool (c : Call) : Nat → String → Except QueryError (Option Bool) := c.readArg .boolean Value.toBool?

def readTimespan (c : Call) : Nat → String → Except QueryError (Option Timespan) :=
  c.readArg .timespan Value.toTimespan?

def readInt (c : Call) : Nat → String → Except QueryError (Option Int64) := c.readArg .integer Value.asInt?

end Remedy.Call
