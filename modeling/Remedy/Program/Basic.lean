import Remedy.Rule.Error
/-!
# Program — compiled rule modules and the library that holds them

A module is compiled from rules.  Each call in it has been resolved: to a predicate of the module itself, to one of
another module, to facts that are asserted while a query runs, to a predicate of the application, or to a built-in.
Modules refer to each other by their place in a library, whose first module is the system library.
-/
namespace Remedy

/-- The predicates of the language itself. -/
inductive Builtin
  | true
  | fail
  | assert
  | assertFront
  | retract
  | var
  | nonvar
  | log
  deriving DecidableEq

namespace Builtin

def ofName? (name : String) : Option Builtin :=
  if name = "true" then some .true
  else if name = "fail" || name = "false" then some .fail
  else if name = "assert" || name = "assertz" then some .assert
  else if name = "asserta" then some .assertFront
  else if name = "retract" then some .retract
  else if name = "var" then some .var
  else if name = "nonvar" then some .nonvar
  else if name = "log" then some .log
  else none

def name : Builtin → String
  | .true => "true"
  | .fail => "fail"
  | .assert => "assert"
  | .assertFront => "asserta"
  | .retract => "retract"
  | .var => "var"
  | .nonvar => "nonvar"
  | .log => "log"

def least : Builtin → Nat
  | .true | .fail => 0
  | _ => 1

def most : Builtin → Option Nat
  | .true | .fail => some 0
  | .log => none
  | _ => some 1

end Builtin

/-- **A predicate of the application**: what it is called, how many arguments it takes and what it asks of them.  One
that answers `once` is asked a single time for each call.  The application knows it by its handle. -/
structure External where
  name : String
  least : Nat
  most : Option Nat
  contract : Contract
  once : Bool
  handle : Nat

/-- **What a call calls.** -/
inductive Callee
  | own (index : Nat)
  | foreign (owner index : Nat)
  | facts (name : String)
  | external (e : External)
  | builtin (b : Builtin)

/-- How a predicate comes by what it knows: from rules, or from facts asserted while a query runs. -/
inductive PredicateKind
  | rules
  | dynamic
  deriving DecidableEq

/-- **A predicate of a module.** -/
structure Predicate where
  name : String
  kind : PredicateKind
  isPublic : Bool
  clauses : List (Clause Callee)
  contract : Contract

/-- What an application says about a name: it has a predicate of that name, or it knows the name and has no use for
it, so that rules which call it are left out. -/
inductive Entry
  | predicate (e : External)
  | notApplicable

/-- **What a module's rules may call besides its own predicates**: registered names, and the public predicates of
modules of the library. -/
structure Provider where
  entries : List (String × Entry)
  imports : List Nat

/-- What a provider says about a name. -/
inductive Lookup
  | found (e : External)
  | rules (owner index : Nat)
  | notApplicable
  | notFound

/-- **A compiled module.**  The overrides are the contracts that its rules declare for predicates of other owners. -/
structure RuleModule where
  name : String
  predicates : List Predicate
  overrides : List (String × Contract)
  provider : Provider

/-- **The modules of an application.** -/
structure Library where
  modules : List RuleModule

def Contract.constraint? (c : Contract) (key : ArgKey) : Option Constraint :=
  (c.find? fun (k, _) => k.agrees key).map (·.2)

namespace Predicate

/-- A predicate without clauses; names that start with `_` are not public unless they are declared so. -/
def declared (name : String) (kind : PredicateKind) : Predicate :=
  ⟨name, kind, !Text.startsWith ['_'] name.toList, [], []⟩

/-- The least and the greatest number of arguments in the heads of the clauses. -/
def arityRange? (p : Predicate) : Option (Nat × Nat) :=
  match p.clauses.map (·.head.arity) with
  | [] => none
  | n :: ns => some (ns.foldl min n, ns.foldl max n)

end Predicate

namespace RuleModule

def index? (m : RuleModule) (name : String) : Option Nat := m.predicates.findIdx? (·.name == name)

def predicate? (m : RuleModule) (name : String) : Option Predicate := m.predicates.find? (·.name == name)

/-- The place of the predicate with a name, if other modules may call it. -/
def public? (m : RuleModule) (name : String) : Option Nat :=
  (m.index? name).filter fun i => (m.predicates[i]?).any (·.isPublic)

end RuleModule

namespace Library

def module? (l : Library) (id : Nat) : Option RuleModule := l.modules[id]?

def predicate? (l : Library) (owner index : Nat) : Option Predicate :=
  (l.module? owner).bind fun m => m.predicates[index]?

/-- The library with one more module, and the place of that module. -/
def add (l : Library) (m : RuleModule) : Library × Nat := (⟨l.modules ++ [m]⟩, l.modules.length)

end Library

namespace Provider

def none : Provider := ⟨[], []⟩

/-- The entries with one more; an entry under the same name is replaced. -/
def put (name : String) (e : Entry) : List (String × Entry) → List (String × Entry)
  | [] => [(name, e)]
  | (n, old) :: rest => if n = name then (n, e) :: rest else (n, old) :: put name e rest

def register (p : Provider) (name : String) (e : Entry) : Provider := { p with entries := put name e p.entries }

def findImport (l : Library) (name : String) : List Nat → Lookup
  | [] => .notFound
  | id :: rest =>
    match (l.module? id).bind (·.public? name) with
    | some index => .rules id index
    | Option.none => findImport l name rest

/-- **What the provider says about a name**: registered names come before those of modules. -/
def lookup (p : Provider) (l : Library) (name : String) : Lookup :=
  match p.entries.find? (·.1 == name) with
  | some (_, .predicate e) => .found e
  | some (_, .notApplicable) => .notApplicable
  | Option.none => findImport l name p.imports

end Provider

end Remedy
