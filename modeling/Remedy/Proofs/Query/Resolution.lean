import Remedy.Query
/-!
# Proofs.Query.Resolution — depth-first resolution, said without a stack

What a goal means is said here for goals of logic alone: calls of rules, `=`, `is`, tests, negation, cut, and the
built-ins that only succeed, fail or look at a variable.  Bindings are values that are passed on, never undone: a goal
turns bindings into its answers, one after the other, and the rest of the body is run on each of them.  A cut is an
entry among the answers: what has not been tried to the left of it is given up, as far as the call of the rule.

Calls may go on for ever, so `Answers.ofCall` gives the answers as far as they come with calls nested at most so deep;
where this is not enough the answers end in `unknown`.
-/
namespace Remedy.Query

/-- **The answers of a search, in order**, and how they end: there are no more, an expression has no value, or nothing
more is known.  At `commit` all is given up that has been left to try outside. -/
inductive Answers
  | exhausted
  | unknown
  | failed (e : QueryError)
  | answer (b : Bindings) (rest : Answers)
  | commit (rest : Answers)

/-- **A copy of a rule**, on behalf of its module: the names of its variables and the number of the first. -/
structure Copy where
  owner : Nat
  scope : VarTable
  base : Nat

namespace Copy

def env (props : String → Option Value) (i : Copy) (b : Bindings) : Expr.Env :=
  ⟨fun name => (i.scope.slot? name).bind fun slot => b.view? name (slot + i.base), props, Expr.Env.still⟩

def told {α : Type} : Except Expr.EvalError α → Except QueryError α
  | .ok a => .ok a
  | .error cause => .error (.expression cause)

def term (props : String → Option Value) (i : Copy) (b : Bindings) (t : Term) : Except QueryError Term :=
  told (t.instantiate (i.env props b) i.base)

def value (props : String → Option Value) (i : Copy) (b : Bindings) (x : Expr) : Except QueryError Value :=
  told (x.eval (i.env props b))

end Copy

namespace Answers

def once (b : Bindings) (success : Bool) : Answers := if success then .answer b .exhausted else .exhausted

/-- **These answers and then the others**, unless the others have been given up. -/
def append : Answers → Answers → Answers
  | .exhausted, others => others
  | .unknown, _ => .unknown
  | .failed e, _ => .failed e
  | .answer b rest, others => .answer b (rest.append others)
  | .commit rest, _ => .commit rest

/-- **What comes of each answer, from the first.** -/
def bind (f : Bindings → Answers) : Answers → Answers
  | .exhausted => .exhausted
  | .unknown => .unknown
  | .failed e => .failed e
  | .answer b rest => (f b).append (rest.bind f)
  | .commit rest => .commit (rest.bind f)

/-- **The answers of a call**: a cut does not reach beyond it. -/
def closed : Answers → Answers
  | .exhausted => .exhausted
  | .unknown => .unknown
  | .failed e => .failed e
  | .answer b rest => .answer b rest.closed
  | .commit rest => rest.closed

/-- **Negation**: it succeeds once, without new bindings, if there is no answer. -/
def negation (b : Bindings) : Answers → Answers
  | .exhausted => .answer b .exhausted
  | .unknown => .unknown
  | .failed e => .failed e
  | .answer _ _ => .exhausted
  | .commit rest => rest.negation b

def ofUnify (b : Bindings) (s t : Except QueryError Term) : Answers :=
  match s, t with
  | .error e, _ => .failed e
  | .ok _, .error e => .failed e
  | .ok s, .ok t => once (b.unify s t).1 (b.unify s t).2

/-- **The answers of a goal**, given those of calls. -/
def ofGoal (props : String → Option Value) (call : Nat → Callee → Call → Bindings → Answers) (i : Copy) :
    Goal Callee → Bindings → Answers
  | .cut, b => .commit (.answer b .exhausted)
  | .unify s t, b => ofUnify b (i.term props b s) (i.term props b t)
  | .is target x, b =>
    match i.value props b x with
    | .error e => .failed e
    | .ok v => ofUnify b (i.term props b target) (.ok (.const v))
  | .test x, b =>
    match i.value props b x with
    | .error e => .failed e
    | .ok v => once b (v.toBool? == some true)
  | .not g, b => (ofGoal props call i g b).negation b
  | .call callee c, b =>
    match Term.instantiateArgs (i.env props b) i.base c.args with
    | .error cause => .failed (.expression cause)
    | .ok args => call i.owner callee ⟨c.functor, args⟩ b

/-- **The answers of goals**, from the left. -/
def ofBody (props : String → Option Value) (call : Nat → Callee → Call → Bindings → Answers) (i : Copy) :
    List (Goal Callee) → Bindings → Answers
  | [], b => .answer b .exhausted
  | g :: rest, b => (ofGoal props call i g b).bind (ofBody props call i rest)

/-- **The answers of rules**, in their order: of each a fresh copy is made, whose variables are numbered after all
others, and its head is unified with the goal. -/
def ofClauses (body : Copy → List (Goal Callee) → Bindings → Answers) (owner : Nat) (goal : Call) (b : Bindings) :
    List (Clause Callee) → Answers
  | [] => .exhausted
  | c :: rest =>
    let (base, fresh) := b.allocate c.vars.size
    match fresh.unifyCall goal (c.head.offset base) with
    | (unified, true) => (body ⟨owner, c.vars, base⟩ c.body unified).append (ofClauses body owner goal b rest)
    | (_, false) => ofClauses body owner goal b rest

end Answers

def rulesOf (l : Library) (owner index : Nat) : List (Clause Callee) :=
  ((l.predicate? owner index).map (·.clauses)).getD []

namespace Answers

def isFree (goal : Call) (b : Bindings) : Bool := goal.args.head?.any fun a => (b.walk a.value).isVar

/-- **The answers of a call**, as far as they come with calls nested at most so deep; of what is no goal of logic
nothing is known. -/
def ofCall (l : Library) (props : String → Option Value) : Nat → Nat → Callee → Call → Bindings → Answers
  | 0, _, _, _, _ => .unknown
  | n + 1, owner, callee, goal, b =>
    let rules (owner index : Nat) :=
      (ofClauses (ofBody props (ofCall l props n)) owner goal b (rulesOf l owner index)).closed
    match callee with
    | .own index => rules owner index
    | .foreign owner index => rules owner index
    | .builtin .true => once b true
    | .builtin .fail => once b false
    | .builtin .var => once b (isFree goal b)
    | .builtin .nonvar => once b (!isFree goal b)
    | _ => .unknown

/-- **What is said at the `k`-th time of asking**: the answer, once that there are no more, or the error of an
expression, after which there is nothing more either; none if it is not known. -/
def reply? (solve : Bindings → Solution) : Answers → Nat → Option (Except QueryError (Option Solution))
  | .exhausted, _ => some (.ok none)
  | .unknown, _ => none
  | .failed e, 0 => some (.error e)
  | .failed _, _ + 1 => some (.ok none)
  | .answer b _, 0 => some (.ok (some (solve b)))
  | .answer _ rest, k + 1 => rest.reply? solve k
  | .commit rest, k => rest.reply? solve k

end Answers

/-- The callee is one of logic: rules, or a built-in that changes nothing. -/
def isLogicalCallee : Callee → Bool
  | .own _ | .foreign _ _ => true
  | .builtin b => b == .true || b == .fail || b == .var || b == .nonvar
  | .facts _ | .external _ => false

/-- **The goal is one of logic.** -/
def isLogical : Goal Callee → Bool
  | .call callee _ => isLogicalCallee callee
  | .not g => isLogical g
  | _ => true

/-- **The goals that a goal may come to run**, each on behalf of a module. -/
inductive Reaches (l : Library) : Nat → Goal Callee → Nat → Goal Callee → Prop
  | refl (owner : Nat) (g : Goal Callee) : Reaches l owner g owner g
  | not {owner o : Nat} {g h : Goal Callee} (hr : Reaches l owner g o h) : Reaches l owner (.not g) o h
  | own {owner index o : Nat} {c : Call} {cl : Clause Callee} {g h : Goal Callee} (hc : cl ∈ rulesOf l owner index)
    (hg : g ∈ cl.body) (hr : Reaches l owner g o h) : Reaches l owner (.call (.own index) c) o h
  | foreign {owner p index o : Nat} {c : Call} {cl : Clause Callee} {g h : Goal Callee} (hc : cl ∈ rulesOf l p index)
    (hg : g ∈ cl.body) (hr : Reaches l p g o h) : Reaches l owner (.call (.foreign p index) c) o h

/-- **All that a goal may come to run is logic.** -/
def Logical (l : Library) (owner : Nat) (g : Goal Callee) : Prop := ∀ o h, Reaches l owner g o h → isLogical h = true

/-! ## Laws of answers -/

namespace Answers

theorem bind_answer : ∀ a : Answers, (a.bind fun b => .answer b .exhausted) = a
  | .exhausted | .unknown | .failed _ => rfl
  | .answer b rest => congrArg (Answers.answer b) (bind_answer rest)
  | .commit rest => congrArg Answers.commit (bind_answer rest)

end Answers

theorem Logical.of_not {l : Library} {owner : Nat} {g : Goal Callee} (h : Logical l owner (.not g)) :
    Logical l owner g := fun o k hr => h o k (.not hr)

theorem Logical.of_own {l : Library} {owner index : Nat} {c : Call} (h : Logical l owner (.call (.own index) c)) :
    ∀ cl ∈ rulesOf l owner index, ∀ g ∈ cl.body, Logical l owner g :=
  fun _ hc _ hg o k hr => h o k (.own hc hg hr)

theorem Logical.of_foreign {l : Library} {owner p index : Nat} {c : Call}
    (h : Logical l owner (.call (.foreign p index) c)) :
    ∀ cl ∈ rulesOf l p index, ∀ g ∈ cl.body, Logical l p g :=
  fun _ hc _ hg o k hr => h o k (.foreign hc hg hr)

/-! ## Libraries of logic -/

end Remedy.Query
