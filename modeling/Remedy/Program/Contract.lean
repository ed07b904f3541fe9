import Remedy.Program.Basic
/-!
# Program.Contract — what calls are checked for

A variable counts as bound from the first goal, or the head, in which it stands; templates and tests do not count.
Inside a negation it counts as bound only there.
-/
namespace Remedy

mutual

/-- The slots seen so far, with those of the named variables of a term. -/
def Term.see (seen : List Nat) : Term → List Nat
  | .var name slot => if name = "_" then seen else slot :: seen
  | .compound _ args => seeArgs seen args
  | _ => seen

def Term.seeArgs (seen : List Nat) : List (Arg Term) → List Nat
  | [] => seen
  | a :: rest => seeArgs (see seen a.value) rest

end

mutual

def Term.isSeen (seen : List Nat) : Term → Bool
  | .var name slot => name ≠ "_" && seen.contains slot
  | .compound _ args => areSeen seen args
  | _ => true

def Term.areSeen (seen : List Nat) : List (Arg Term) → Bool
  | [] => true
  | a :: rest => isSeen seen a.value && areSeen seen rest

end

def ArgKey.isName : ArgKey → Bool
  | .position _ => false
  | .name s => (Decimal.unsigned? s.toList).isNone

/-- How a call breaks a constraint, if it does.  A call without names cannot be checked for a name. -/
def Call.violation? (c : Call) (seen : List Nat) (key : ArgKey) (constraint : Constraint) : Option Violation :=
  match c.get? key with
  | none => if !c.hasNames && key.isName then none else some .missing
  | some t =>
    match constraint with
    | .input => none
    -- this is known before anything runs: a variable counts as bound once it has been mentioned
    | .ground => if t.isSeen seen then none else some (.notBound t)
    | .output =>
      match t with
      | .var name slot => if name = "_" || !seen.contains slot then none else some (.notOutput t)
      | _ => some (.notOutput t)

/-- The first constraint of a contract that a call breaks, and how. -/
def Call.breach? (c : Call) (seen : List Nat) (contract : Contract) : Option (ArgKey × Violation) :=
  contract.findSome? fun (key, constraint) => (c.violation? seen key constraint).map (key, ·)

/-- The contract with one more constraint; a different one for the same argument is a conflict. -/
def Contract.merge (c : Contract) (key : ArgKey) (constraint : Constraint) : Except MetaCause Contract :=
  match c.constraint? key with
  | none => .ok (c ++ [(key, constraint)])
  | some present => if present = constraint then .ok c else .error (.conflictingConstraints key present constraint)

def Contract.mergeAll (c : Contract) : Contract → Except MetaCause Contract
  | [] => .ok c
  | (key, constraint) :: rest =>
    match c.merge key constraint with
    | .ok c => mergeAll c rest
    | .error e => .error e

/-- The contract with those constraints of another whose arguments it does not have. -/
def Contract.complete (c : Contract) : Contract → Contract
  | [] => c
  | (key, constraint) :: rest =>
    complete (if (c.constraint? key).isSome then c else c ++ [(key, constraint)]) rest

end Remedy
