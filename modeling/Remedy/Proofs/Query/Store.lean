import Remedy.Proofs.Query.Choices
import Remedy.Proofs.Query.Chronicle
/-!
# Proofs.Query.Store — the facts only change by being asserted and retracted

What a transition does to the facts is what its happening does, and only the built-in predicates for facts and the
application do something.  So every change of the store can be told from the call that makes it (`Stocks`): a fact that
is asserted comes last, or first; what cannot be asserted is not; the first fact that matches is retracted; and going
back undoes none of it.  From the beginning on, the store comes about by asserting and retracting, as long as the
application and others do nothing else to it (`becomes_of_passes`).
-/
namespace Remedy.Query

variable {σ : Type} {e : Engine σ} {others : σ → Session → σ → Session → Prop} {m m' : Machine σ} {c : Control}
  {o : Outcome}

/-! ## What changes the store -/

def Moment.facts (a : Moment σ) : Facts := a.machine.session.facts

def Moment.invoking? (e : Engine σ) : Moment σ → Option (Activation × Callee × Call)
  | .search _ c m => c.invoking? e m
  | .rest _ _ _ => none

/-- **Only asserting and retracting changes the store.**  What goes back leaves it as it is; a fact that is asserted
comes last, or first with `asserta`; what cannot be asserted, because it is not ground or not a fact, is not; the first
fact that matches is retracted, and no other. -/
structure Stocks (e : Engine σ) (a a' : Moment σ) : Prop where
  back : a.control = .backtrack → a'.facts = a.facts
  asserted : ∀ act b goal, a.invoking? e = some (act, .builtin b, goal) → b = .assert ∨ b = .assertFront →
    (∃ fact, a.machine.factOf goal = .ok fact ∧ fact.isGround = true ∧
      a'.facts.all = if b = .assert then a.facts.all ++ [fact] else fact :: a.facts.all) ∨
    (∀ fact, a.machine.factOf goal = .ok fact → fact.isGround = false) ∧ a'.facts = a.facts
  retracted : ∀ act goal, a.invoking? e = some (act, .builtin .retract, goal) →
    (∃ pattern fact before after, a.machine.factOf goal = .ok pattern ∧ a.facts.all = before ++ fact :: after ∧
      a'.facts.all = before ++ after ∧ (fact.functor = pattern.functor ∧ Machine.matchesAlone pattern fact = true) ∧
        ∀ f ∈ before, f.functor = pattern.functor → Machine.matchesAlone pattern f = false) ∨
    (∀ pattern, a.machine.factOf goal = .ok pattern → ∀ f ∈ a.facts.all, f.functor = pattern.functor →
      Machine.matchesAlone pattern f = false) ∧ a'.facts = a.facts
  kept : (∀ i, a.control ≠ .ask i) → (∀ act b goal, a.invoking? e = some (act, .builtin b, goal) →
    b ≠ .assert ∧ b ≠ .assertFront ∧ b ≠ .retract) → a'.facts = a.facts

/-- The facts that what happens next leaves, if nobody else does anything. -/
def Moment.stock (e : Engine σ) : Moment σ → Facts
  | .search _ c m => m.factsAfter (m.does e c)
  | .rest _ _ s => s.facts

theorem facts_finish (q : Query) (m : Machine σ) : (Moment.after (q.finish m)).facts = m.session.facts := by
  have htree : ∀ (m : Machine σ) (f : Context.Tree → Context.Tree), (m.onTree f).session.facts = m.session.facts :=
    fun _ _ => rfl
  unfold Moment.facts
  rw [machine_finish, htree]
  rfl

/-- **What happens next leaves the facts that its happening leaves**, unless it is the doing of others. -/
theorem facts_passes {a a' : Moment σ} (hp : Passes e others a a') :
    a'.facts = a.stock e ∨ ∃ q w s w' s', a = .rest q w s ∧ a' = .rest q w' s' ∧ others w s w' s' := by
  have hstep : ∀ {c : Control} {m m' : Machine σ} {o : Outcome}, m.step e c = (o, m') →
      m'.session.facts = m.factsAfter (m.does e c) := by
    intro c m m' o hs
    have hfacts := Machine.facts_step e m c
    rw [hs] at hfacts
    exact hfacts
  cases hp with
  | begin hq => exact .inl rfl
  | again hq => exact .inl rfl
  | move hs => exact .inl (hstep hs)
  | solved hs => exact .inl (hstep hs)
  | exhausted hs => exact .inl ((facts_finish _ _).trans (hstep hs))
  | @failed q c m m' cause hs =>
    have hm : m'.session.facts = m.factsAfter (m.does e c) := hstep hs
    exact .inl ((facts_finish q (m'.rewind q.origin)).trans hm)
  | @close q w s =>
    left
    by_cases hq : q.status = .ended
    · rw [close_ended hq]
      rfl
    · rw [after_close hq]
      exact facts_finish q (q.machine w s)
  | other hw => exact .inr ⟨_, _, _, _, _, rfl, rfl, hw⟩

theorem does_invoking {act : Activation} {b : Builtin} {goal : Call}
    (hi : c.invoking? e m = some (act, .builtin b, goal)) : m.does e c = m.builtinDoes goal b := by
  obtain ⟨call, rest, fs, rfl, ht, hfunctor, hargs⟩ := running_of_invoking? hi
  obtain ⟨functor, args⟩ := goal
  obtain rfl : functor = call.functor := hfunctor
  have hargs : Term.instantiateArgs (m.env act) act.base call.args = .ok args := hargs
  simp only [Machine.does, Control.running, ht, Option.isNone_none, if_true, Option.bind_some, Machine.goalDoes, hargs]

theorem goalDoes_cases (m : Machine σ) (act : Activation) (g : Goal Callee) : m.goalDoes act g = none ∨
    ∃ b call args, g = .call (.builtin b) call ∧ Term.instantiateArgs (m.env act) act.base call.args = .ok args ∧
      m.goalDoes act g = m.builtinDoes ⟨call.functor, args⟩ b := by
  cases g with
  | call callee call =>
    cases callee with
    | builtin b =>
      simp only [Machine.goalDoes]
      cases hargs : Term.instantiateArgs (m.env act) act.base call.args with
      | error cause => exact .inl rfl
      | ok args => exact .inr ⟨b, call, args, rfl, hargs, rfl⟩
    | _ => exact .inl rfl
  | _ => exact .inl rfl

theorem does_eq_none (hc : ∀ i, c ≠ .ask i) (hi : ∀ act b goal, c.invoking? e m = some (act, .builtin b, goal) →
    b ≠ .assert ∧ b ≠ .assertFront ∧ b ≠ .retract) : m.does e c = none := by
  cases c with
  | ask i => exact absurd rfl (hc i)
  | backtrack => rfl
  | run frames =>
    refine Option.bind_eq_none_iff.2 fun ⟨act, g⟩ hr => ?_
    rcases goalDoes_cases m act g with hnone | ⟨b, call, args, rfl, hargs, hdoes⟩
    · exact hnone
    · unfold Control.invoking? at hi
      simp only [hr, hargs] at hi
      obtain ⟨hassert, hfront, hretract⟩ := hi act b _ rfl
      refine hdoes.trans ?_
      cases b with
      | assert => exact absurd rfl hassert
      | assertFront => exact absurd rfl hfront
      | retract => exact absurd rfl hretract
      | true | fail | var | nonvar | log => rfl

theorem all_asserts (m : Machine σ) (goal : Call) (atEnd : Bool) :
    (∃ fact, m.factOf goal = .ok fact ∧ fact.isGround = true ∧ (m.factsAfter (m.asserts goal atEnd)).all =
      if atEnd then m.session.facts.all ++ [fact] else fact :: m.session.facts.all) ∨
    (∀ fact, m.factOf goal = .ok fact → fact.isGround = false) ∧
      m.factsAfter (m.asserts goal atEnd) = m.session.facts := by
  unfold Machine.asserts
  cases hf : m.factOf goal with
  | error cause => exact .inr ⟨fun _ h => (nomatch h), rfl⟩
  | ok fact =>
    cases hg : fact.isGround with
    | false =>
      refine .inr ⟨fun fact' h => ?_, by simp only [hg]; rfl⟩
      cases h
      exact hg
    | true =>
      refine .inl ⟨fact, rfl, hg, ?_⟩
      simp only [hg, if_true]
      cases atEnd with
      | true => exact Facts.all_push _ _
      | false => exact Facts.all_pushFront _ _

theorem all_retracts (m : Machine σ) (goal : Call) :
    (∃ pattern fact before after, m.factOf goal = .ok pattern ∧ m.session.facts.all = before ++ fact :: after ∧
      (m.factsAfter (m.retracts goal)).all = before ++ after ∧
        (fact.functor = pattern.functor ∧ Machine.matchesAlone pattern fact = true) ∧
          ∀ f ∈ before, f.functor = pattern.functor → Machine.matchesAlone pattern f = false) ∨
    (∀ pattern, m.factOf goal = .ok pattern → ∀ f ∈ m.session.facts.all, f.functor = pattern.functor →
      Machine.matchesAlone pattern f = false) ∧ m.factsAfter (m.retracts goal) = m.session.facts := by
  unfold Machine.retracts
  cases hf : m.factOf goal with
  | error cause => exact .inr ⟨fun _ h => (nomatch h), rfl⟩
  | ok pattern =>
    simp only
    cases hr : m.session.facts.retract? pattern.functor (Machine.matchesAlone pattern) with
    | none =>
      refine .inr ⟨fun pattern' h => ?_, rfl⟩
      cases h
      exact Facts.retract?_eq_none hr
    | some taken =>
      obtain ⟨before, after, hall, hleft, hmatch, hbefore⟩ := Facts.retract?_eq_some hr
      exact .inl ⟨pattern, taken.1, before, after, rfl, hall, hleft, hmatch, hbefore⟩

theorem stock_eq {a : Moment σ} {act : Activation} {b : Builtin} {goal : Call}
    (hi : a.invoking? e = some (act, .builtin b, goal)) :
    a.stock e = a.machine.factsAfter (a.machine.builtinDoes goal b) := by
  cases a with
  | rest q w s => cases hi
  | search q c m => exact congrArg m.factsAfter (does_invoking hi)

theorem stock_eq_facts {a : Moment σ} (hc : ∀ i, a.control ≠ .ask i)
    (hi : ∀ act b goal, a.invoking? e = some (act, .builtin b, goal) → b ≠ .assert ∧ b ≠ .assertFront ∧ b ≠ .retract) :
    a.stock e = a.facts := by
  cases a with
  | rest q w s => rfl
  | search q c m => exact congrArg m.factsAfter (does_eq_none hc hi)

/-- **What happens next only changes the store by asserting and retracting**, if nobody else does anything. -/
theorem stocks_of_passes {a a' : Moment σ} (hp : Passes e (fun _ _ _ _ => False) a a') : Stocks e a a' := by
  have hfacts := (facts_passes hp).resolve_right fun ⟨_, _, _, _, _, _, _, hw⟩ => hw
  refine ⟨fun hc => ?_, fun act b goal hi hb => ?_, fun act goal hi => ?_, fun hc hi => ?_⟩
  · rw [hfacts]
    refine stock_eq_facts (fun i hi => ?_) fun act b goal hi => ?_
    · cases hc.symm.trans hi
    · cases a with
      | rest q w s => cases hi
      | search q c m =>
        obtain rfl : c = .backtrack := hc
        cases hi
  · rw [hfacts, stock_eq hi]
    rcases hb with rfl | rfl
    · exact all_asserts a.machine goal true
    · exact all_asserts a.machine goal false
  · rw [hfacts, stock_eq hi]
    exact all_retracts a.machine goal
  · exact hfacts.trans (stock_eq_facts hc hi)

/-! ## How the store comes about -/

/-- **The application and others change the facts by asserting and retracting.** -/
structure Curated (e : Engine σ) (others : σ → Session → σ → Session → Prop) : Prop where
  host : ∀ (w : σ) (s : Session) p args n, s.facts.Becomes (e.host.ask w s p args n).session.facts
  others : ∀ (w : σ) (s : Session) w' s', others w s w' s' → s.facts.Becomes s'.facts

theorem becomes_reply (hc : Curated e others) (m : Machine σ) (i : Inquiry) :
    m.session.facts.Becomes (m.reply e i).2.2.facts := by
  unfold Machine.reply Host.next
  split
  · exact .refl
  · split
    · exact .refl
    · exact hc.host _ _ _ _ _

theorem becomes_goalDoes (m : Machine σ) (act : Activation) (g : Goal Callee) :
    m.session.facts.Becomes (m.factsAfter (m.goalDoes act g)) := by
  have hassert : ∀ goal atEnd, m.session.facts.Becomes (m.factsAfter (m.asserts goal atEnd)) := by
    intro goal atEnd
    unfold Machine.asserts
    split
    · exact .refl
    · rename_i fact hf
      split
      · rename_i hg
        refine (Facts.Becomes.refl : m.session.facts.Becomes _).assert (?_ : m.session.facts.assert fact atEnd = _)
        unfold Facts.assert
        rw [hg]
        rfl
      · exact .refl
  have hretract : ∀ goal, m.session.facts.Becomes (m.factsAfter (m.retracts goal)) := by
    intro goal
    unfold Machine.retracts
    split
    · exact .refl
    · rename_i pattern hf
      cases hr : m.session.facts.retract? pattern.functor (Machine.matchesAlone pattern) with
      | none => exact .refl
      | some taken => exact .retract .refl hr
  rcases goalDoes_cases m act g with hnone | ⟨b, call, args, -, -, hdoes⟩
  · rw [hnone]
    exact .refl
  · rw [hdoes]
    cases b with
    | assert => exact hassert _ true
    | assertFront => exact hassert _ false
    | retract => exact hretract _
    | true | fail | var | nonvar | log => exact .refl

/-- **Facts are only asserted and retracted.** -/
theorem becomes_of_passes (hc : Curated e others) {a a' : Moment σ} (hp : Passes e others a a') :
    a.facts.Becomes a'.facts := by
  rcases facts_passes hp with hfacts | ⟨q, w, s, w', s', rfl, rfl, hw⟩
  · rw [hfacts]
    cases a with
    | rest q w s => exact .refl
    | search q c m =>
      cases c with
      | backtrack => exact .refl
      | ask i =>
        have hreply := becomes_reply hc m i
        rw [Machine.facts_reply] at hreply
        exact hreply
      | run frames =>
        simp only [Moment.stock, Machine.does]
        cases (Control.run frames).running e m with
        | none => exact .refl
        | some running => exact becomes_goalDoes m running.1 running.2
  · exact hc.others _ _ _ _ hw

end Remedy.Query
