import Remedy.Query.Machine
import Remedy.Term.Instance
/-!
# Query.Goals — running one goal

A goal succeeds, and the search goes on with the frames after it, or it fails, and the search goes back to its newest
choice.  A call of rules, facts or the application only lays out its alternatives; the first of them is tried by
going back at once.
-/
namespace Remedy

/-- What an expression sees of a variable: its constant, or the text of any other term that it stands for. -/
def Bindings.view? (b : Bindings) (name : String) (slot : Nat) : Option Value :=
  match b.walk (.var name slot) with
  | .const v => some v
  | .var _ _ => none
  | t => some (.string (b.resolve t).display)

/-- The fact that a term is: a call, or a text as a call without arguments. -/
def Term.asFact? : Term → Option Call
  | .compound functor args => some ⟨functor, args⟩
  | .const (.string name) => some ⟨name, []⟩
  | _ => none

/-- The text of a term in a message: strings stand as they are. -/
def Term.toText : Term → String
  | .const v => v.toText
  | t => t.display

namespace Query

/-- **A goal's way on**: to the frames after it, or back. -/
def Outcome.proceed (success : Bool) (after : List Frame) : Outcome :=
  .more (if success then .run after else .backtrack)

namespace Machine

/-- What the expressions of a rule see: its variables, and the variables of the query as properties. -/
def env (m : Machine σ) (act : Activation) : Expr.Env :=
  ⟨fun name => (act.scope.slot? name).bind fun slot => m.bindings.view? name (slot + act.base),
    m.session.valueOf?, Expr.Env.still⟩

def unify (m : Machine σ) (a b : Term) (after : List Frame) : Outcome × Machine σ :=
  let (bindings, success) := m.bindings.unify a b
  (.proceed success after, { m with bindings })

def factOf (m : Machine σ) (goal : Call) : Except QueryError Call :=
  match (goal.args.head?.map fun a => m.bindings.resolve a.value).bind Term.asFact? with
  | some fact => .ok fact
  | none => .error (.invalidGoal goal.display .notAFact)

def assert (m : Machine σ) (goal : Call) (atEnd : Bool) (after : List Frame) : Outcome × Machine σ :=
  match m.factOf goal with
  | .error e => (.failed e, m)
  | .ok fact =>
    match m.session.assert fact atEnd with
    | .error e => (.failed e, m)
    | .ok session => (.proceed true after, { m with session })

/-- A fact matches a pattern, whatever the variables of the pattern stand for elsewhere. -/
def matchesAlone (pattern fact : Call) : Bool :=
  ((Bindings.empty.allocate pattern.span).2.unifyCall pattern fact).2

/-- **Takes away the first fact that matches**, and binds the variables of the pattern to what it holds. -/
def retract (m : Machine σ) (goal : Call) (after : List Frame) : Outcome × Machine σ :=
  match m.factOf goal with
  | .error e => (.failed e, m)
  | .ok pattern =>
    -- the fact is chosen as if the pattern stood alone, and only then unified with what is bound
    match m.session.facts.retract? pattern.functor (matchesAlone pattern) with
    | none => (.proceed false after, m)
    | some (fact, facts) =>
      let (bindings, success) := m.bindings.unifyCall pattern fact
      (.proceed success after, { m with bindings, session := { m.session with facts } })

def isFree (m : Machine σ) (goal : Call) : Bool := goal.args.head?.any fun a => (m.bindings.walk a.value).isVar

def message (m : Machine σ) (goal : Call) : String :=
  String.join (goal.args.map fun a => (m.bindings.resolve a.value).toText)

/-- **Runs a built-in.** -/
def builtin (m : Machine σ) (b : Builtin) (goal : Call) (after : List Frame) : Outcome × Machine σ :=
  match b with
  | .true => (.proceed true after, m)
  | .fail => (.proceed false after, m)
  | .assert => m.assert goal true after
  | .assertFront => m.assert goal false after
  | .retract => m.retract goal after
  | .var => (.proceed (m.isFree goal) after, m)
  | .nonvar => (.proceed (!m.isFree goal) after, m)
  | .log => (.proceed true after, m.onSession (·.note (m.message goal)))

def child (m : Machine σ) (parent : Nat) : Nat × Machine σ :=
  (m.session.tree.forest.size, m.onTree fun t => (t.create parent).2)

/-- **Lays out the alternatives of a call** in a context of its own. -/
def offer (m : Machine σ) (act : Activation) (goal : Call) (untried : Untried) (after : List Frame) :
    Outcome × Machine σ :=
  let (context, m) := m.child act.context
  (.more .backtrack, m.push ⟨m.bindings.checkpoint, .exit context :: after, .call goal context false untried⟩)

def clausesOf (e : Engine σ) (owner index : Nat) : Untried :=
  .clauses owner (((e.library.predicate? owner index).map (·.clauses)).getD [])

/-- **Runs a call.** -/
def call (e : Engine σ) (m : Machine σ) (act : Activation) (callee : Callee) (c : Call) (after : List Frame) :
    Outcome × Machine σ :=
  match Term.instantiateArgs (m.env act) act.base c.args with
  | .error cause => (.failed (.expression cause), m)
  | .ok args =>
    let goal : Call := ⟨c.functor, args⟩
    match callee with
    | .builtin b => m.builtin b goal after
    | .own index => m.offer act goal (clausesOf e act.owner index) after
    | .foreign owner index => m.offer act goal (clausesOf e owner index) after
    | .facts name => m.offer act goal (.facts (m.session.facts.under name)) after
    -- the application sees what the variables stand for now, also when it is asked again later
    | .external p => m.offer act goal (.answers p (m.bindings.resolveCall goal) 0) after

def value (m : Machine σ) (act : Activation) (e : Expr) : Except QueryError Value :=
  match e.eval (m.env act) with
  | .ok v => .ok v
  | .error cause => .error (.expression cause)

def instantiate (m : Machine σ) (act : Activation) (t : Term) : Except QueryError Term :=
  match t.instantiate (m.env act) act.base with
  | .ok t => .ok t
  | .error cause => .error (.expression cause)

/-- Unifies what two computations give, the first of them first. -/
def unifyResults (m : Machine σ) (a b : Except QueryError Term) (after : List Frame) : Outcome × Machine σ :=
  match a, b with
  | .error e, _ => (.failed e, m)
  | .ok _, .error e => (.failed e, m)
  | .ok a, .ok b => m.unify a b after

/-- **Runs a goal.**  A negation runs its goal up to a mark above its own choice; only if the goal fails is the choice
found again. -/
def execute (e : Engine σ) (m : Machine σ) (act : Activation) (g : Goal Callee) (after : List Frame) :
    Outcome × Machine σ :=
  match g with
  | .cut => (.proceed true after, m.cut act.barrier (some act.context))
  | .unify a b => m.unifyResults (m.instantiate act a) (m.instantiate act b) after
  | .is target expr =>
    match m.value act expr with
    | .error cause => (.failed cause, m)
    | .ok v => m.unifyResults (m.instantiate act target) (.ok (.const v)) after
  | .test expr =>
    match m.value act expr with
    | .error cause => (.failed cause, m)
    | .ok v => (.proceed (v.toBool? == some true) after, m)
  | .not g =>
    -- a cut inside the negation stays inside: its barrier lies above the negation's choice
    let height := m.choices.height
    (.more (.run [.body { act with barrier := height + 1 } [g], .negated height]),
      m.push ⟨m.bindings.checkpoint, after, .negation⟩)
  | .call callee c => call e m act callee c after

end Machine

end Query

end Remedy
