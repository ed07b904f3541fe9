import Remedy.Query
/-!
# Proofs.Query.Moves — all that one transition can do

A transition is taken apart once, here: `Executes` lists what running a goal can do, `Resumes` what going back to a
choice can do, and `Moves` all transitions, each with what has been checked on the way.  Every transition of the search
is one of them (`step_moves`), so that an invariant of the search is a proof by cases.
-/
namespace Remedy.Query

def Inquiry.choice (i : Inquiry) : Choice :=
  ⟨i.checkpoint, i.after, .call i.goal i.context true (.answers i.predicate i.args i.asked)⟩

theorem Choice.context?_of_call {d : Choice} {goal : Call} {k : Nat} {tried : Bool} {untried : Untried}
    (h : d.pending = .call goal k tried untried) : d.context? = some k := by
  rw [Choice.context?, h]

theorem proceed_ne_ask (success : Bool) (after : List Frame) (i : Inquiry) :
    Outcome.proceed success after ≠ .more (.ask i) := by
  cases success <;> exact fun h => nomatch h

theorem items_of_pop {α : Type} {s t : Stack α} {a : α} (h : s.pop? = some (a, t)) : s.items = a :: t.items := by
  rcases s with ⟨_ | ⟨b, l⟩, n, hn⟩
  · cases h
  · cases h
    rfl

theorem items_of_pop_none {α : Type} {s : Stack α} (h : s.pop? = none) : s.items = [] := by
  rcases s with ⟨_ | ⟨b, l⟩, n, hn⟩
  · rfl
  · cases h

namespace Machine

variable {σ : Type}

def withBindings (m : Machine σ) (bindings : Bindings) : Machine σ := { m with bindings }

def ticked (m : Machine σ) : Machine σ := { m with steps := m.steps + 1 }

theorem tick_snd (m : Machine σ) (o : Options) : (m.tick o).2 = m.ticked := by
  unfold tick
  simp only
  split
  · rfl
  · split <;> rfl

/-- The alternatives that a call lays out; a built-in has none. -/
def alternatives? (e : Engine σ) (m : Machine σ) (act : Activation) (goal : Call) : Callee → Option Untried
  | .builtin _ => none
  | .own index => some (clausesOf e act.owner index)
  | .foreign owner index => some (clausesOf e owner index)
  | .facts name => some (.facts (m.session.facts.under name))
  | .external p => some (.answers p (m.bindings.resolveCall goal) 0)

/-- **What running a goal can do.** -/
inductive Executes (e : Engine σ) (m : Machine σ) (act : Activation) (after : List Frame) :
    Goal Callee → Outcome → Machine σ → Prop
  | fault (g : Goal Callee) (cause : QueryError)
    (h : ∀ p c, g = .call (.external p) c → ∃ x, Term.instantiateArgs (m.env act) act.base c.args = .error x) :
    Executes e m act after g (.failed cause) m
  | cut : Executes e m act after .cut (.more (.run after)) (m.cut act.barrier (some act.context))
  | unify {a b s t : Term} (ha : m.instantiate act a = .ok s) (hb : m.instantiate act b = .ok t) :
    Executes e m act after (.unify a b) (.proceed (m.bindings.unify s t).2 after)
      (m.withBindings (m.bindings.unify s t).1)
  | is {a t : Term} {x : Expr} {v : Value} (ha : m.instantiate act a = .ok t) :
    Executes e m act after (.is a x) (.proceed (m.bindings.unify t (.const v)).2 after)
      (m.withBindings (m.bindings.unify t (.const v)).1)
  | test (x : Expr) (success : Bool) : Executes e m act after (.test x) (.proceed success after) m
  | not (g : Goal Callee) : Executes e m act after (.not g)
      (.more (.run [.body { act with barrier := m.choices.height + 1 } [g], .negated m.choices.height]))
      (m.push ⟨m.bindings.checkpoint, after, .negation⟩)
  | check (b : Builtin) (c : Call) (success : Bool) :
    Executes e m act after (.call (.builtin b) c) (.proceed success after) m
  | assert (b : Builtin) (c : Call) {fact : Call} {atEnd : Bool} {s : Session}
    (hs : m.session.assert fact atEnd = .ok s) :
    Executes e m act after (.call (.builtin b) c) (.proceed true after) { m with session := s }
  | retract (b : Builtin) (c : Call) {args : List (Arg Term)} {pattern fact : Call} {facts : Facts}
    (hargs : Term.instantiateArgs (m.env act) act.base c.args = .ok args)
    (hp : m.factOf ⟨c.functor, args⟩ = .ok pattern)
    (hr : m.session.facts.retract? pattern.functor (matchesAlone pattern) = some (fact, facts)) :
    Executes e m act after (.call (.builtin b) c) (.proceed (m.bindings.unifyCall pattern fact).2 after)
      { m.withBindings (m.bindings.unifyCall pattern fact).1 with session := { m.session with facts } }
  | log (b : Builtin) (c : Call) (message : String) :
    Executes e m act after (.call (.builtin b) c) (.proceed true after) (m.onSession (·.note message))
  | offer {callee : Callee} {c : Call} {args : List (Arg Term)} {untried : Untried}
    (hargs : Term.instantiateArgs (m.env act) act.base c.args = .ok args)
    (hu : m.alternatives? e act ⟨c.functor, args⟩ callee = some untried) :
    Executes e m act after (.call callee c) (m.offer act ⟨c.functor, args⟩ untried after).1
      (m.offer act ⟨c.functor, args⟩ untried after).2

def retry (m : Machine σ) (context : Nat) (tried : Bool) : Machine σ :=
  if tried then m.onTree (·.setStable context false) else m

def keep (m : Machine σ) (c : Choice) (goal : Call) (context : Nat) (left : Bool) (untried : Untried) : Machine σ :=
  if left then m.push { c with pending := .call goal context true untried } else m

/-- **What going back to a choice can do**, once it has been taken off the stack. -/
inductive Resumes (m : Machine σ) (c : Choice) : Outcome → Machine σ → Prop
  | negation (h : c.pending = .negation) : Resumes m c (.more (.run c.after)) m
  | noClause {goal : Call} {k owner : Nat} {tried : Bool} {clauses : List (Clause Callee)} {b : Bindings}
    (h : c.pending = .call goal k tried (.clauses owner clauses))
    (hf : firstClause goal m.bindings clauses = (b, none)) :
    Resumes m c (.more .backtrack) (((m.retry k tried).withBindings b).onTree (·.detach k))
  | clause {goal : Call} {k owner base : Nat} {tried : Bool} {clauses rest : List (Clause Callee)}
    {cl : Clause Callee} {b : Bindings} (h : c.pending = .call goal k tried (.clauses owner clauses))
    (hf : firstClause goal m.bindings clauses = (b, some (base, cl, rest))) :
    Resumes m c (.more (.run (.body ⟨owner, cl.vars, base, m.choices.height, k⟩ cl.body :: c.after)))
      (((m.retry k tried).withBindings b).keep c goal k (!rest.isEmpty) (.clauses owner rest))
  | noFact {goal : Call} {k : Nat} {tried : Bool} {facts : List Call} {b : Bindings}
    (h : c.pending = .call goal k tried (.facts facts)) (hf : firstFact goal m.bindings facts = (b, none)) :
    Resumes m c (.more .backtrack) (((m.retry k tried).withBindings b).onTree (·.detach k))
  | fact {goal : Call} {k : Nat} {tried : Bool} {facts rest : List Call} {b : Bindings}
    (h : c.pending = .call goal k tried (.facts facts)) (hf : firstFact goal m.bindings facts = (b, some rest)) :
    Resumes m c (.more (.run c.after))
      (((m.retry k tried).withBindings b).keep c goal k (!rest.isEmpty) (.facts rest))
  | answers {goal args : Call} {k asked : Nat} {tried : Bool} {p : External}
    (h : c.pending = .call goal k tried (.answers p args asked)) :
    Resumes m c (.more (.ask ⟨c.checkpoint, c.after, goal, k, p, args, asked⟩)) (m.retry k tried)

def heard (m : Machine σ) (world : σ) (session : Session) : Machine σ := { m with world, session }

def reply (e : Engine σ) (m : Machine σ) (i : Inquiry) : Except QueryError (Option Answer) × σ × Session :=
  e.host.next e.options.limit m.world m.session i.context i.predicate i.args i.asked

/-- The bindings after an answer, and whether it fits. -/
def matched (m : Machine σ) (i : Inquiry) (a : Answer) : Bindings × Bool :=
  (m.bindings.rewind i.checkpoint).unifyAll (answerEquations i.goal a)

/-- **All that one transition can do.** -/
inductive Moves (e : Engine σ) (m : Machine σ) : Control → Outcome → Machine σ → Prop
  | solved : Moves e m (.run []) .solved m
  | stopped {f : Frame} {fs : List Frame} {cause : QueryError} (h : (m.tick e.options).1 = some cause) :
    Moves e m (.run (f :: fs)) (.failed cause) m.ticked
  | exit {k : Nat} {fs : List Frame} (h : (m.tick e.options).1 = none) :
    Moves e m (.run (.exit k :: fs)) (.more (.run fs)) (m.ticked.onTree (·.setStable k true))
  | negated {height : Nat} {fs : List Frame} (h : (m.tick e.options).1 = none) :
    Moves e m (.run (.negated height :: fs)) (.more .backtrack) (m.ticked.cut height none)
  | bodyEnd {act : Activation} {fs : List Frame} (h : (m.tick e.options).1 = none) :
    Moves e m (.run (.body act [] :: fs)) (.more (.run fs)) m.ticked
  | goal {act : Activation} {g : Goal Callee} {rest : List (Goal Callee)} {fs : List Frame} {o : Outcome}
    {m' : Machine σ} (h : (m.tick e.options).1 = none)
    (hx : Executes e (m.ticked.record e.options g) act (afterGoal act rest fs) g o m') :
    Moves e m (.run (.body act (g :: rest) :: fs)) o m'
  | exhausted (h : m.choices.pop? = none) : Moves e m .backtrack .exhausted m
  | back {c : Choice} {cs : Stack Choice} {o : Outcome} {m' : Machine σ} (h : m.choices.pop? = some (c, cs))
    (hr : Resumes ({ m with choices := cs }.rewind c.checkpoint) c o m') : Moves e m .backtrack o m'
  | refused {i : Inquiry} {cause : QueryError} {w : σ} {s : Session} (h : m.reply e i = (.error cause, w, s)) :
    Moves e m (.ask i) (.failed cause) (m.heard w s)
  | noAnswer {i : Inquiry} {w : σ} {s : Session} (h : m.reply e i = (.ok none, w, s)) :
    Moves e m (.ask i) (.more .backtrack) ((m.heard w s).onTree (·.detach i.context))
  | answer {i : Inquiry} {a : Answer} {w : σ} {s : Session} (h : m.reply e i = (.ok (some a), w, s))
    (hu : (m.matched i a).2 = true) :
    Moves e m (.ask i) (.more (.run i.after)) (((m.heard w s).withBindings (m.matched i a).1).push
      ({ i with asked := i.asked + 1 } : Inquiry).choice)
  | misfitStopped {i : Inquiry} {a : Answer} {w : σ} {s : Session} {cause : QueryError}
    (h : m.reply e i = (.ok (some a), w, s)) (hu : (m.matched i a).2 = false)
    (ht : (((m.heard w s).withBindings (m.matched i a).1).tick e.options).1 = some cause) :
    Moves e m (.ask i) (.failed cause) ((m.heard w s).withBindings (m.matched i a).1).ticked
  | misfit {i : Inquiry} {a : Answer} {w : σ} {s : Session} (h : m.reply e i = (.ok (some a), w, s))
    (hu : (m.matched i a).2 = false)
    (ht : (((m.heard w s).withBindings (m.matched i a).1).tick e.options).1 = none) :
    Moves e m (.ask i) (.more (.ask { i with asked := i.asked + 1 }))
      ((m.heard w s).withBindings (m.matched i a).1).ticked

/-! ## Every transition is one of them -/

theorem executes_builtin (e : Engine σ) (m : Machine σ) (act : Activation) (after : List Frame) (b : Builtin)
    (c : Call) {args : List (Arg Term)} (hargs : Term.instantiateArgs (m.env act) act.base c.args = .ok args) :
    Executes e m act after (.call (.builtin b) c) (m.builtin b ⟨c.functor, args⟩ after).1
      (m.builtin b ⟨c.functor, args⟩ after).2 := by
  have hassert : ∀ atEnd, Executes e m act after (.call (.builtin b) c) (m.assert ⟨c.functor, args⟩ atEnd after).1
      (m.assert ⟨c.functor, args⟩ atEnd after).2 := by
    intro atEnd
    unfold assert
    split
    · exact .fault _ _ (fun _ _ h => nomatch h)
    · split
      · exact .fault _ _ (fun _ _ h => nomatch h)
      · rename_i s hs
        exact .assert b c hs
  cases b with
  | true => exact .check _ c true
  | fail => exact .check _ c false
  | assert => exact hassert true
  | assertFront => exact hassert false
  | retract =>
    unfold builtin retract
    simp only
    split
    · exact .fault _ _ (fun _ _ h => nomatch h)
    · rename_i pattern hp
      split
      · exact .check _ c false
      · rename_i fact facts hr
        exact .retract _ c hargs hp hr
  | var => exact .check _ c _
  | nonvar => exact .check _ c _
  | log => exact .log _ c _

theorem executes_call (e : Engine σ) (m : Machine σ) (act : Activation) (after : List Frame) (callee : Callee)
    (c : Call) : Executes e m act after (.call callee c) (call e m act callee c after).1
      (call e m act callee c after).2 := by
  unfold call
  split
  · rename_i cause hargs
    refine .fault _ _ fun p c' h => ?_
    cases h
    exact ⟨cause, hargs⟩
  · rename_i args hargs
    cases callee with
    | builtin b => exact executes_builtin e m act after b c hargs
    | own index => exact .offer hargs rfl
    | foreign owner index => exact .offer hargs rfl
    | facts name => exact .offer hargs rfl
    | external p => exact .offer hargs rfl

theorem execute_executes (e : Engine σ) (m : Machine σ) (act : Activation) (after : List Frame) (g : Goal Callee) :
    Executes e m act after g (execute e m act g after).1 (execute e m act g after).2 := by
  cases g with
  | call callee c => exact executes_call e m act after callee c
  | cut => exact .cut
  | unify a b =>
    unfold execute unifyResults
    simp only
    split
    · exact .fault _ _ (fun _ _ h => nomatch h)
    · exact .fault _ _ (fun _ _ h => nomatch h)
    · rename_i s t ha hb
      exact .unify ha hb
  | is a x =>
    unfold execute
    simp only
    split
    · exact .fault _ _ (fun _ _ h => nomatch h)
    · unfold unifyResults
      split
      · exact .fault _ _ (fun _ _ h => nomatch h)
      · exact .fault _ _ (fun _ _ h => nomatch h)
      · rename_i s t ha hb
        cases hb
        exact .is ha
  | test x =>
    unfold execute
    simp only
    split
    · exact .fault _ _ (fun _ _ h => nomatch h)
    · exact .test x _
  | not g => exact .not g

theorem steps_record (m : Machine σ) (o : Options) (g : Goal Callee) : (m.record o g).steps = m.steps := by
  unfold record
  split <;> rfl

theorem choices_record (m : Machine σ) (o : Options) (g : Goal Callee) : (m.record o g).choices = m.choices := by
  unfold record
  split <;> rfl

theorem bindings_retry (m : Machine σ) (k : Nat) (tried : Bool) : (m.retry k tried).bindings = m.bindings := by
  unfold retry
  split <;> rfl

theorem world_retry (m : Machine σ) (k : Nat) (tried : Bool) : (m.retry k tried).world = m.world := by
  unfold retry
  split <;> rfl

theorem world_keep (m : Machine σ) (c : Choice) (goal : Call) (k : Nat) (left : Bool) (untried : Untried) :
    (m.keep c goal k left untried).world = m.world := by
  unfold keep
  split <;> rfl

theorem choices_retry (m : Machine σ) (k : Nat) (tried : Bool) : (m.retry k tried).choices = m.choices := by
  unfold retry
  split <;> rfl

theorem tryClauses_resumes (m : Machine σ) (c : Choice) {goal : Call} {k owner : Nat} {tried : Bool}
    {clauses : List (Clause Callee)} (h : c.pending = .call goal k tried (.clauses owner clauses)) :
    Resumes m c ((m.retry k tried).tryClauses c goal k owner clauses).1
      ((m.retry k tried).tryClauses c goal k owner clauses).2 := by
  unfold tryClauses
  rw [bindings_retry]
  rcases hf : firstClause goal m.bindings clauses with ⟨b, _ | ⟨base, cl, rest⟩⟩
  · exact .noClause h hf
  · have hc := Resumes.clause h hf
    rw [← choices_retry m k tried] at hc
    cases rest <;> exact hc

theorem tryFacts_resumes (m : Machine σ) (c : Choice) {goal : Call} {k : Nat} {tried : Bool} {facts : List Call}
    (h : c.pending = .call goal k tried (.facts facts)) :
    Resumes m c ((m.retry k tried).tryFacts c goal k facts).1 ((m.retry k tried).tryFacts c goal k facts).2 := by
  unfold tryFacts
  rw [bindings_retry]
  rcases hf : firstFact goal m.bindings facts with ⟨b, _ | rest⟩
  · exact .noFact h hf
  · have hr := Resumes.fact h hf
    cases rest <;> exact hr

theorem resume_resumes (m : Machine σ) (c : Choice) : Resumes m c (m.resume c).1 (m.resume c).2 := by
  unfold resume
  split
  · rename_i h
    exact .negation h
  · rename_i goal k tried untried h
    cases untried with
    | clauses owner clauses => exact tryClauses_resumes m c h
    | facts facts => exact tryFacts_resumes m c h
    | answers p args asked => exact .answers h

theorem ask_moves (e : Engine σ) (m : Machine σ) (i : Inquiry) : Moves e m (.ask i) (ask e m i).1 (ask e m i).2 := by
  unfold ask
  split
  rename_i result w s h
  have h : m.reply e i = (result, w, s) := h
  cases result with
  | error cause => exact .refused h
  | ok answer =>
    cases answer with
    | none => exact .noAnswer h
    | some a =>
      simp only
      split
      · rename_i hu
        exact .answer h hu
      · rename_i hu
        have hu : (m.matched i a).2 = false := Bool.eq_false_iff.2 hu
        split
        · rename_i cause m' ht
          have h1 := Moves.misfitStopped (e := e) h hu (by exact congrArg Prod.fst ht)
          have h2 : ((m.heard w s).withBindings (m.matched i a).1).ticked = m' :=
            (tick_snd _ e.options).symm.trans (congrArg Prod.snd ht)
          rw [h2] at h1
          exact h1
        · rename_i m' ht
          have h1 := Moves.misfit (e := e) h hu (by exact congrArg Prod.fst ht)
          have h2 : ((m.heard w s).withBindings (m.matched i a).1).ticked = m' :=
            (tick_snd _ e.options).symm.trans (congrArg Prod.snd ht)
          rw [h2] at h1
          exact h1

theorem run_moves (e : Engine σ) (m : Machine σ) (f : Frame) (fs : List Frame) :
    Moves e m (.run (f :: fs)) (step e m (.run (f :: fs))).1 (step e m (.run (f :: fs))).2 := by
  rcases ht : m.tick e.options with ⟨_ | cause, m'⟩
  · have h1 : (m.tick e.options).1 = none := congrArg Prod.fst ht
    have h2 : m.ticked = m' := (tick_snd m e.options).symm.trans (congrArg Prod.snd ht)
    have hs : step e m (.run (f :: fs)) = runFrame e m' f fs := by simp only [step, ht]
    rw [hs, ← h2]
    cases f with
    | exit k => exact .exit h1
    | negated height => exact .negated h1
    | body act goals =>
      cases goals with
      | nil => exact .bodyEnd h1
      | cons g rest => exact .goal h1 (execute_executes e _ act _ g)
  · have h1 := @Moves.stopped σ e m f fs cause (congrArg Prod.fst ht)
    have h2 : m.ticked = m' := (tick_snd m e.options).symm.trans (congrArg Prod.snd ht)
    have hs : step e m (.run (f :: fs)) = (.failed cause, m') := by simp only [step, ht]
    rw [hs, ← h2]
    exact h1

/-- **Every transition is one of the list.** -/
theorem step_moves (e : Engine σ) (m : Machine σ) (c : Control) : Moves e m c (step e m c).1 (step e m c).2 := by
  cases c with
  | run frames =>
    cases frames with
    | nil => exact .solved
    | cons f fs => exact run_moves e m f fs
  | backtrack =>
    have hs : step e m .backtrack = m.backtrack := rfl
    rw [hs]
    unfold backtrack
    split
    · rename_i h
      exact .exhausted h
    · rename_i c cs h
      exact .back h (resume_resumes _ c)
  | ask i => exact ask_moves e m i

theorem moves_of_step {e : Engine σ} {m m' : Machine σ} {c : Control} {o : Outcome} (h : m.step e c = (o, m')) :
    m.Moves e c o m' := by
  have hm := step_moves e m c
  rw [h] at hm
  exact hm

end Machine

end Remedy.Query
