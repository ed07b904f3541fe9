import Remedy.Program.Contract
/-!
# Program.Declaration — facts about predicates

A fact `meta(p, …)` declares something of the predicate `p`: that other modules may or may not call it, that its facts
are asserted while a query runs, or what it asks of an argument.  Declarations must not contradict each other.
-/
namespace Remedy

/-- What a fact declares of a predicate. -/
structure Declaration where
  dynamic : Bool := false
  visibility : Option Bool := none
  contract : Contract := []

/-- The predicates and overrides that declarations are applied to. -/
structure Declared where
  predicates : List Predicate
  overrides : List (String × Contract)

def metaFunctor : String := "meta"

def Declaration.see (d : Declaration) (target : String) (isPublic : Bool) : Except MetaCause Declaration :=
  if d.visibility = some (!isPublic) then .error (.conflictingVisibility target)
  else .ok { d with visibility := some isPublic }

/-- Takes one more argument into a declaration: a word is a flag, a word with a name is a constraint. -/
def Declaration.take (d : Declaration) (target : String) (a : Arg Term) : Except MetaCause Declaration :=
  match a.value.asConst?.bind Value.asString? with
  | none => .error (.unsupportedValue a.value)
  | some word =>
    match a.name with
    | none =>
      let flag := Text.asciiLower word
      if flag = "dynamic" then .ok { d with dynamic := true }
      else if flag = "public" then d.see target true
      else if flag = "private" then d.see target false
      else .error (.unknownFlag word)
    | some name =>
      match Constraint.ofName? word with
      | none => .error (.unknownConstraint word)
      | some constraint => (d.contract.merge (.parse name) constraint).map fun c => { d with contract := c }

def Declaration.takeAll (d : Declaration) (target : String) : List (Arg Term) → Except MetaCause Declaration
  | [] => .ok d
  | a :: rest =>
    match d.take target a with
    | .ok d => d.takeAll target rest
    | .error e => .error e

/-- The predicate and the declaration of a fact. -/
def Declaration.ofClause (c : Clause Unit) : Except MetaCause (String × Declaration) :=
  if !c.body.isEmpty then .error .notAFact
  else match c.head.args with
    | [] => .error .noPredicate
    | a :: rest =>
      match a.value.asConst?.bind Value.asString? with
      | none => .error .noPredicate
      | some target => (Declaration.takeAll {} target rest).map (target, ·)

def putContract (name : String) (c : Contract) : List (String × Contract) → List (String × Contract)
  | [] => [(name, c)]
  | (n, old) :: rest => if n = name then (n, c) :: rest else (n, old) :: putContract name c rest

/-- Applies a declaration to a predicate of the module. -/
def Predicate.declare (p : Predicate) (d : Declaration) : Except MetaCause Predicate :=
  if d.dynamic && p.kind = .rules then .error (.definedByRules p.name)
  else (p.contract.mergeAll d.contract).map fun c => { p with isPublic := d.visibility.getD p.isPublic, contract := c }

def declareIn (target : String) (d : Declaration) : List Predicate → Except MetaCause (List Predicate)
  | [] => .ok []
  | p :: rest =>
    if p.name = target then (p.declare d).map (· :: rest)
    else (declareIn target d rest).map (p :: ·)

/-- The contract that a predicate of another owner has already. -/
def Lookup.contract? (l : Library) : Lookup → Option Contract
  | .found e => some e.contract
  | .rules owner index => some (((l.predicate? owner index).map (·.contract)).getD [])
  | .notApplicable => some []
  | .notFound => none

/-- Applies a declaration to a predicate of another owner, of which only the contract can be completed. -/
def Declared.override (s : Declared) (l : Library) (provider : Provider) (target : String) (d : Declaration) :
    Except MetaCause Declared :=
  match (provider.lookup l target).contract? l with
  | none => .error (.notDefined target)
  | some present =>
    if d.visibility.isSome then .error (.foreignVisibility target)
    else
      -- an override is kept apart from the contract it completes, and must not contradict it
      let extra := ((s.overrides.find? (·.1 == target)).map (·.2)).getD []
      match Contract.mergeAll (present ++ extra) d.contract, Contract.mergeAll extra d.contract with
      | .ok _, .ok extra => .ok { s with overrides := putContract target extra s.overrides }
      | .error e, _ => .error e
      | _, .error e => .error e

/-- **Applies a declaration.** -/
def Declared.apply (s : Declared) (l : Library) (provider : Provider) (target : String) (d : Declaration) :
    Except MetaCause Declared :=
  if s.predicates.any (·.name == target) then
    (declareIn target d s.predicates).map fun ps => { s with predicates := ps }
  else if d.dynamic then
    ((Predicate.declared target .dynamic).declare d).map fun p => { s with predicates := s.predicates ++ [p] }
  else s.override l provider target d

def Declared.applyAll (s : Declared) (l : Library) (provider : Provider) :
    List (Clause Unit) → Except CompileError Declared
  | [] => .ok s
  | c :: rest =>
    match (Declaration.ofClause c).bind fun (target, d) => s.apply l provider target d with
    | .ok s => s.applyAll l provider rest
    | .error cause => .error (.invalidMeta c.text cause)

end Remedy
