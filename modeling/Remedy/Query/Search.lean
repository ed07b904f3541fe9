import Remedy.Query.Goals
/-!
# Query.Search — depth first, from the left, with backtracking

One transition runs the first frame, goes back to the newest choice, or asks the application.  Frames and fruitless
answers count as steps; going back does not.  A call that is tried again is unstable until it has another answer, and
one without further alternatives is detached.
-/
namespace Remedy.Query

/-- The first of the rules whose head unifies with the goal, after its variables have got new slots: the bindings, the
slot of the first variable, the rule and the rules after it. -/
def firstClause (goal : Call) (b : Bindings) : List (Clause Callee) →
    Bindings × Option (Nat × Clause Callee × List (Clause Callee))
  | [] => (b, none)
  | c :: rest =>
    let mark := b.checkpoint
    -- the variables of the rule are moved up into slots of their own
    let (base, b) := b.allocate c.vars.size
    let (b, success) := b.unifyCall goal (c.head.offset base)
    if success then (b, some (base, c, rest)) else firstClause goal (b.rewind mark) rest

/-- The first of the facts that unifies with the goal: the bindings and the facts after it. -/
def firstFact (goal : Call) (b : Bindings) : List Call → Bindings × Option (List Call)
  | [] => (b, none)
  | fact :: rest =>
    let mark := b.checkpoint
    let (b, success) := b.unifyCall goal fact
    if success then (b, some rest) else firstFact goal (b.rewind mark) rest

/-- The pairs of arguments that an answer makes equal: those of the keys that the goal has. -/
def answerEquations (goal : Call) (answer : Answer) : List Bindings.Equation :=
  answer.filterMap fun (key, t) => (goal.get? key).map (.pair · t)

namespace Machine

/-- The call of a choice has no more alternatives. -/
def giveUp (m : Machine σ) (context : Nat) : Outcome × Machine σ := (.more .backtrack, m.onTree (·.detach context))

/-- Tries the next rule of a call.  The choice stays as long as there are rules after it. -/
def tryClauses (m : Machine σ) (c : Choice) (goal : Call) (context owner : Nat) (clauses : List (Clause Callee)) :
    Outcome × Machine σ :=
  match firstClause goal m.bindings clauses with
  | (bindings, none) => ({ m with bindings } : Machine σ).giveUp context
  | (bindings, some (base, clause, rest)) =>
    -- the height is that below the call's own choice, so a cut in the body gives that up too
    let act : Activation := ⟨owner, clause.vars, base, m.choices.height, context⟩
    let m := { m with bindings }
    (.more (.run (.body act clause.body :: c.after)),
      if rest.isEmpty then m else m.push { c with pending := .call goal context true (.clauses owner rest) })

def tryFacts (m : Machine σ) (c : Choice) (goal : Call) (context : Nat) (facts : List Call) :
    Outcome × Machine σ :=
  match firstFact goal m.bindings facts with
  | (bindings, none) => ({ m with bindings } : Machine σ).giveUp context
  | (bindings, some rest) =>
    let m := { m with bindings }
    (.more (.run c.after), if rest.isEmpty then m else m.push { c with pending := .call goal context true (.facts rest) })

/-- **Goes back to a choice** that has been taken off the stack. -/
def resume (m : Machine σ) (c : Choice) : Outcome × Machine σ :=
  match c.pending with
  | .negation => (.more (.run c.after), m)
  | .call goal context tried untried =>
    -- its last answer, if it had one, does not hold any more
    let m := if tried then m.onTree (·.setStable context false) else m
    match untried with
    | .clauses owner rest => m.tryClauses c goal context owner rest
    | .facts rest => m.tryFacts c goal context rest
    | .answers e args asked => (.more (.ask ⟨c.checkpoint, c.after, goal, context, e, args, asked⟩), m)

/-- **Goes back to the newest choice.** -/
def backtrack (m : Machine σ) : Outcome × Machine σ :=
  match m.choices.pop? with
  | none => (.exhausted, m)
  | some (c, choices) => (({ m with choices } : Machine σ).rewind c.checkpoint).resume c

/-- **Asks the application for the next answer.**  The choice stays, since only the application knows whether there is
another answer. -/
def ask (e : Engine σ) (m : Machine σ) (i : Inquiry) : Outcome × Machine σ :=
  let (result, world, session) :=
    e.host.next e.options.limit m.world m.session i.context i.predicate i.args i.asked
  let m := { m with world, session }
  match result with
  | .error cause => (.failed cause, m)
  | .ok none => m.giveUp i.context
  | .ok (some answer) =>
    -- what an answer before this one has bound is undone first
    let (bindings, success) := (m.bindings.rewind i.checkpoint).unifyAll (answerEquations i.goal answer)
    let m := { m with bindings }
    if success then
      (.more (.run i.after),
        m.push ⟨i.checkpoint, i.after, .call i.goal i.context true (.answers i.predicate i.args (i.asked + 1))⟩)
    else
      -- an answer that does not fit is a step, else a search could ask forever
      match m.tick e.options with
      | (some cause, m) => (.failed cause, m)
      | (none, m) => (.more (.ask { i with asked := i.asked + 1 }), m)

/-- Writes a goal into the journal, if that is wanted. -/
def record (m : Machine σ) (o : Options) (g : Goal Callee) : Machine σ :=
  if o.trace then m.onSession fun s => { s with trace := s.trace.push (m.choices.height, g.display) } else m

def afterGoal (act : Activation) (rest : List (Goal Callee)) (frames : List Frame) : List Frame :=
  if rest.isEmpty then frames else .body act rest :: frames

/-- **Runs the first frame.** -/
def runFrame (e : Engine σ) (m : Machine σ) (f : Frame) (frames : List Frame) : Outcome × Machine σ :=
  match f with
  | .exit context => (.more (.run frames), m.onTree (·.setStable context true))
  | .negated height => (.more .backtrack, m.cut height none)
  | .body _ [] => (.more (.run frames), m)
  | .body act (g :: rest) => execute e (m.record e.options g) act g (afterGoal act rest frames)

/-- **One transition of a search.** -/
def step (e : Engine σ) (m : Machine σ) : Control → Outcome × Machine σ
  | .run [] => (.solved, m)
  | .run (f :: frames) =>
    match m.tick e.options with
    | (some cause, m) => (.failed cause, m)
    | (none, m) => runFrame e m f frames
  | .backtrack => m.backtrack
  | .ask i => ask e m i

def runFor (e : Engine σ) : Nat → Machine σ → Control → Except QueryError Bool × Machine σ
  | 0, m, _ => (.error (.stepLimit e.options.maxSteps), m)
  | n + 1, m, c =>
    match step e m c with
    | (.more c, m) => runFor e n m c
    | (.solved, m) => (.ok true, m)
    | (.exhausted, m) => (.ok false, m)
    | (.failed cause, m) => (.error cause, m)

/-- More transitions than a search makes within its steps: every step puts at most one choice on the stack, and every
choice is gone back to once for each time it has been put there. -/
def enough (e : Engine σ) (m : Machine σ) : Nat := 5 * (e.options.maxSteps + 1 - m.steps) + 2 * m.choices.height + 4

/-- **Searches for the next solution**; tells whether there is one. -/
def run (e : Engine σ) (m : Machine σ) (c : Control) : Except QueryError Bool × Machine σ :=
  runFor e (enough e m) m c

end Machine

end Remedy.Query
