import Remedy.Program.Declaration
import Remedy.Rule.Layout
import Remedy.Rule.Parser
import Remedy.SourceFile
/-!
# Program.Compile — modules from rules

Compiling takes two passes.  The first finds the predicates that the rules define and applies the declarations; the
second resolves every call and checks it.  A name belongs to the module's own predicate if there is one, else to the
provider, else to a built-in, else to a public predicate of the system library.  A rule that calls a name which is not
applicable is left out, but only after it has been checked like every other.
-/
namespace Remedy

/-- **Where calls are resolved**: the library, the module's predicates and overrides so far, and the provider. -/
structure Scope where
  library : Library
  predicates : List Predicate
  overrides : List (String × Contract)
  provider : Provider

/-- What a name stands for: a callee with its contract and the numbers of arguments it takes, or a name that is not
applicable. -/
inductive Resolution
  | callee (callee : Callee) (contract : Contract) (arity : Option (Nat × Option Nat))
  | notApplicable

namespace Scope

/-- The contract of a predicate of another owner, completed by the module's overrides. -/
def withOverrides (s : Scope) (name : String) (c : Contract) : Contract :=
  match s.overrides.find? (·.1 == name) with
  | some (_, extra) => c.complete extra
  | none => c

/-- A predicate of another module as a callee, with its contract. -/
def foreign (s : Scope) (owner index : Nat) : Callee × Contract :=
  match s.library.predicate? owner index with
  | some p => (if p.kind = .dynamic then .facts p.name else .foreign owner index, p.contract)
  | none => (.foreign owner index, [])

def own? (s : Scope) (name : String) : Option Resolution :=
  match s.predicates.findIdx? (·.name == name), s.predicates.find? (·.name == name) with
  | some i, some p => some (.callee (if p.kind = .dynamic then .facts p.name else .own i) p.contract none)
  | _, _ => none

def provided? (s : Scope) (name : String) : Option Resolution :=
  match s.provider.lookup s.library name with
  | .found e => some (.callee (.external e) (s.withOverrides name e.contract) (some (e.least, e.most)))
  | .rules owner index =>
    let (callee, contract) := s.foreign owner index
    some (.callee callee (s.withOverrides name contract) none)
  | .notApplicable => some .notApplicable
  | .notFound => none

def builtin? (name : String) : Option Resolution :=
  (Builtin.ofName? name).map fun b => .callee (.builtin b) [] (some (b.least, b.most))

/-- The public predicate of the system library, the first module of the library, with a name. -/
def system? (s : Scope) (name : String) : Option Resolution :=
  ((s.library.module? 0).bind (·.public? name)).map fun index =>
    let (callee, contract) := s.foreign 0 index
    .callee callee contract none

/-- **What a name stands for.** -/
def resolve? (s : Scope) (name : String) : Option Resolution :=
  (s.own? name).orElse fun _ => (s.provided? name).orElse fun _ => (builtin? name).orElse fun _ => s.system? name

end Scope

/-- What compiling has seen of a rule: the slots of variables, and whether a call is not applicable. -/
structure Seen where
  slots : List Nat
  notApplicable : Bool

def arityFault? (clause : String) (c : Call) : Option (Nat × Option Nat) → Option CompileError
  | none => none
  | some (least, most) =>
    if decide (least ≤ c.arity) && most.all (c.arity ≤ ·) then none
    else some (.arity c.functor least most c.arity clause)

namespace Scope

def checkCall (clause : String) (seen : Seen) (c : Call) (callee : Callee) (contract : Contract)
    (arity : Option (Nat × Option Nat)) : Except CompileError (Goal Callee × Seen) :=
  match arityFault? clause c arity, c.breach? seen.slots contract with
  | some fault, _ => .error fault
  | none, some (key, v) => .error (.violation c.functor key clause v)
  | none, none => .ok (.call callee c, { seen with slots := Term.seeArgs seen.slots c.args })

/-- **Resolves and checks a call** of the rule with the given text. -/
def compileCall (s : Scope) (clause : String) (seen : Seen) (c : Call) :
    Except CompileError (Goal Callee × Seen) :=
  match s.resolve? c.functor with
  | none => .error (.undefinedPredicate c.functor clause)
  -- the rule is left out in the end, but the goals after this one are checked all the same
  | some .notApplicable => checkCall clause { seen with notApplicable := true } c (.builtin .fail) [] none
  | some (.callee callee contract arity) => checkCall clause seen c callee contract arity

/-- **Resolves and checks a goal.**  What a negation binds is bound inside it alone. -/
def compileGoal (s : Scope) (clause : String) (seen : Seen) : Goal Unit → Except CompileError (Goal Callee × Seen)
  | .cut => .ok (.cut, seen)
  | .unify a b => .ok (.unify a b, { seen with slots := (a.see seen.slots |> b.see) })
  | .is t e => .ok (.is t e, { seen with slots := t.see seen.slots })
  | .test e => .ok (.test e, seen)
  | .not g =>
    (s.compileGoal clause seen g).map fun (g, inner) => (.not g, { seen with notApplicable := inner.notApplicable })
  | .call _ c => s.compileCall clause seen c

/-- Resolves and checks goals from the left. -/
def compileGoals (s : Scope) (clause : String) (seen : Seen) :
    List (Goal Unit) → Except CompileError (List (Goal Callee) × Seen)
  | [] => .ok ([], seen)
  | g :: rest =>
    match s.compileGoal clause seen g with
    | .error e => .error e
    | .ok (g, seen) => (s.compileGoals clause seen rest).map fun (gs, seen) => (g :: gs, seen)

/-- **Compiles a rule**; none if it calls a name that is not applicable. -/
def compileClause (s : Scope) (c : Clause Unit) : Except CompileError (Option (Clause Callee)) :=
  (s.compileGoals c.text ⟨Term.seeArgs [] c.head.args, false⟩ c.body).map fun (gs, seen) =>
    if seen.notApplicable then none else some ⟨c.head, gs, c.vars, c.text, c.line⟩

/-- Compiles rules from the first; those left out are missing in the result. -/
def compileClauses (s : Scope) : List (Clause Unit) → Except CompileError (List (Clause Callee))
  | [] => .ok []
  | c :: rest =>
    match s.compileClause c with
    | .error e => .error e
    | .ok compiled => (s.compileClauses rest).map (compiled.toList ++ ·)

end Scope

def parseRules : List RuleText → Except CompileError (List (Clause Unit))
  | [] => .ok []
  | r :: rest =>
    match Rule.parse r with
    | .error e => .error e
    | .ok c => (parseRules rest).map (c :: ·)

/-- The predicates that rules define, in the order in which they appear. -/
def definedBy (clauses : List (Clause Unit)) : List Predicate :=
  clauses.foldl (fun ps c =>
    if ps.any (·.name == c.head.functor) then ps else ps ++ [Predicate.declared c.head.functor .rules]) []

def isDeclaration (c : Clause Unit) : Bool := c.head.functor == metaFunctor

/-- **Compiles rules into a module** that may call what the provider has and what the library's system module has. -/
def RuleModule.compile (l : Library) (name : String) (provider : Provider) (rules : List RuleText) :
    Except CompileError RuleModule := do
  let parsed ← parseRules rules
  let clauses := parsed.filter (!isDeclaration ·)
  -- declarations are facts, but define no predicate `meta`
  let declared ← Declared.applyAll ⟨definedBy clauses, []⟩ l provider (parsed.filter isDeclaration)
  let scope : Scope := ⟨l, declared.predicates, declared.overrides, provider⟩
  let compiled ← scope.compileClauses clauses
  let predicates := declared.predicates.map fun p =>
    { p with clauses := compiled.filter (·.head.functor == p.name) }
  .ok ⟨name, predicates, declared.overrides, provider⟩

/-- **Compiles a text of rules into a module.** -/
def RuleModule.ofSource (l : Library) (name : String) (provider : Provider) (source : String) :
    Except CompileError RuleModule := do
  RuleModule.compile l name provider (← Rule.split source)

def RuleModule.ofFile (l : Library) (name : String) (provider : Provider) (file : SourceFile) :
    Except CompileError RuleModule := do
  RuleModule.ofSource l name provider (← file.rules)

/-- **Resolves and checks a goal that a query starts with**, on behalf of a module. -/
def RuleModule.resolveGoal (l : Library) (m : RuleModule) (c : Call) : Except CompileError (Goal Callee) :=
  let scope : Scope := ⟨l, m.predicates, m.overrides, m.provider⟩
  match scope.compileCall c.display ⟨[], false⟩ c with
  | .error e => .error e
  | .ok (g, seen) => if seen.notApplicable then .error (.undefinedPredicate g.display c.display) else .ok g

end Remedy
