import Remedy.Proofs.Query.Contracts
import Remedy.Proofs.Query.Ending
import Remedy.Proofs.Query.Rewinding
import Remedy.Proofs.Query.Turns
/-!
# Proofs.Query.Choices — what becomes of the stack of choices

A transition takes choices off the stack, or it puts one on it: that of a negation, that of a call which is made, or
again the choice that it has gone back to, with fewer alternatives (`Restacks`).  As long as a choice is on the stack,
the bindings that it goes back to stay the same (`rewind_moves`).  The contexts of the calls are numbered as the calls
are made, so the context of a call is never that of a choice which was there before (`Numbered`).
-/
namespace Remedy.Query

open Bindings (Extends)
open Context (Forest)

variable {σ : Type} {b₀ b b' : Bindings} {e : Engine σ} {others : σ → Session → σ → Session → Prop} {m m' : Machine σ}
  {c : Control} {o : Outcome} {act : Activation} {callee : Callee} {goal : Call} {untried : Untried}

/-! ## The bindings that a choice goes back to -/

/-- **Later bindings do not change where the choices go back to.** -/
theorem Unwinds.rewind_eq : ∀ {cs : List Choice} {b b' : Bindings}, Unwinds b₀ b cs → Extends b b' →
    ∀ d ∈ cs, b'.rewind d.checkpoint = b.rewind d.checkpoint
  | [], _, _, _, _ => List.forall_mem_nil _
  | d :: cs, b, b', ⟨b₁, hc, he₁, _, hrest⟩, he => by
    refine List.forall_mem_cons.2 ⟨?_, fun d' hd => ?_⟩
    · rw [hc, (he₁.trans he).rewind_eq, he₁.rewind_eq]
    · rw [hrest.rewind_eq (he₁.trans he) d' hd, hrest.rewind_eq he₁ d' hd]

theorem Unwinds.sound_rewind (hb₀ : b₀.Sound) : ∀ {cs : List Choice} {b : Bindings}, Unwinds b₀ b cs →
    ∀ d ∈ cs, (b.rewind d.checkpoint).Sound
  | [], _, _ => List.forall_mem_nil _
  | d :: cs, b, ⟨b₁, hc, he, _, hrest⟩ => by
    refine List.forall_mem_cons.2 ⟨?_, fun d' hd => ?_⟩
    · rw [hc, he.rewind_eq]
      exact Extends.trans hb₀ hrest.extends
    · rw [hrest.rewind_eq he d' hd]
      exact hrest.sound_rewind hb₀ d' hd

/-- **As long as a choice is on the stack, the bindings that it goes back to stay the same.** -/
theorem rewind_moves (hb₀ : b₀.Sound) (h : Undoable b₀ m) (hc : c.Undoable b₀ m) (hm : m.Moves e c o m') :
    ∀ d ∈ m.choices.items, m'.bindings.rewind d.checkpoint = m.bindings.rewind d.checkpoint := by
  have hsound := h.sound hb₀
  cases c with
  | run frames =>
    refine h.unwinds.rewind_eq ?_
    cases hm with
    | goal ht hx =>
      have hrecord : ∀ g, (m.ticked.record e.options g).bindings = m.bindings := by
        intro g
        unfold Machine.record
        split <;> rfl
      have he := extends_executes (by rw [hrecord]; exact hsound) hx
      rw [hrecord] at he
      exact he
    | _ => exact .refl
  | backtrack =>
    cases hm with
    | exhausted hp => exact fun _ _ => rfl
    | @back d cs o m' hp hr =>
      have hu := h.unwinds
      rw [items_of_pop hp] at hu ⊢
      obtain ⟨b, hcp, he, hk, hrest⟩ := hu
      -- all choices are seen from the bindings that the newest goes back to
      have hnow : Unwinds b₀ b (d :: cs.items) := ⟨b, hcp, .refl, hk, hrest⟩
      have hb : (({ m with choices := cs } : Machine σ).rewind d.checkpoint).bindings = b := by
        unfold Machine.rewind
        simp only
        rw [hcp, he.rewind_eq]
      have hx := extends_resumes (by rw [hb]; exact Extends.trans hb₀ hrest.extends) hr
      rw [hb] at hx
      exact fun d' hd => (hnow.rewind_eq hx d' hd).trans (hnow.rewind_eq he d' hd).symm
  | ask i =>
    obtain ⟨b, hcp, he, hk, hrest⟩ := hc
    have hcp : i.checkpoint = b.checkpoint := hcp
    have hmatched : ∀ (a : Answer) (d : Choice), d ∈ m.choices.items →
        (m.matched i a).1.rewind d.checkpoint = m.bindings.rewind d.checkpoint := by
      intro a d hd
      have hx : Extends b (m.matched i a).1 := by
        unfold Machine.matched
        rw [hcp, he.rewind_eq]
        exact Bindings.extends_unifyAll (Extends.trans hb₀ hrest.extends) _
      exact (hrest.rewind_eq hx d hd).trans (hrest.rewind_eq he d hd).symm
    cases hm with
    | refused ha => exact fun _ _ => rfl
    | noAnswer ha => exact fun _ _ => rfl
    | answer ha hu => exact hmatched _
    | misfitStopped ha hu ht => exact hmatched _
    | misfit ha hu ht => exact hmatched _

/-! ## A call that is made -/

/-- The call that is invoked stands first in what is run, and the search is not stopped before it. -/
theorem running_of_invoking? (hi : c.invoking? e m = some (act, callee, goal)) : ∃ call rest fs,
    c = .run (.body act (.call callee call :: rest) :: fs) ∧ (m.tick e.options).1 = none ∧
      goal.functor = call.functor ∧ Term.instantiateArgs (m.env act) act.base call.args = .ok goal.args := by
  obtain ⟨call, rest, fs, rfl, hfunctor, hargs⟩ := invoking?_eq_some hi
  refine ⟨call, rest, fs, rfl, ?_, hfunctor, hargs⟩
  unfold Control.invoking? Control.running at hi
  cases ht : (m.tick e.options).1 with
  | none => rfl
  | some cause =>
    rw [ht] at hi
    cases hi

theorem record_eq (m : Machine σ) (o : Options) (g : Goal Callee) :
    ∃ trace, m.record o g = m.onSession fun s => { s with trace } := by
  unfold Machine.record
  split
  · exact ⟨_, rfl⟩
  · exact ⟨m.session.trace, rfl⟩

def Control.following : Control → List Frame
  | .run (.body act (_ :: rest) :: frames) => Machine.afterGoal act rest frames
  | _ => []

/-- **A call of rules, facts or the application** only lays out its alternatives. -/
theorem step_offers (hi : c.invoking? e m = some (act, callee, goal))
    (hu : m.alternatives? e act goal callee = some untried) : ∃ trace,
      m.step e c = (m.ticked.onSession fun s => { s with trace }).offer act goal untried c.following := by
  obtain ⟨call, rest, fs, rfl, ht, hfunctor, hargs⟩ := running_of_invoking? hi
  obtain ⟨functor, args⟩ := goal
  obtain rfl : functor = call.functor := hfunctor
  obtain ⟨trace, hrecord⟩ := record_eq m.ticked e.options (.call callee call)
  have htick : m.tick e.options = (none, m.ticked) := Prod.ext ht (Machine.tick_snd m e.options)
  have hargs : Term.instantiateArgs ((m.ticked.onSession fun s => { s with trace }).env act) act.base call.args =
      .ok args := hargs
  refine ⟨trace, ?_⟩
  simp only [Control.following, Machine.step, htick, Machine.runFrame, hrecord, Machine.execute, Machine.call, hargs]
  cases callee <;> cases hu <;> rfl

theorem invoking?_run {call : Call} {rest : List (Goal Callee)} {fs : List Frame} {args : List (Arg Term)}
    (ht : (m.tick e.options).1 = none) (hargs : Term.instantiateArgs (m.env act) act.base call.args = .ok args) :
    (Control.run (.body act (.call callee call :: rest) :: fs)).invoking? e m =
      some (act, callee, ⟨call.functor, args⟩) := by
  unfold Control.invoking? Control.running
  simp only [ht, Option.isNone_none, if_true, hargs]

/-! ## The stack after a transition -/

/-- **What becomes of the stack of choices.** -/
inductive Restacks (e : Engine σ) (m : Machine σ) : Control → Machine σ → Prop
  | less {c : Control} {m' : Machine σ} (n : Nat) (h : m'.choices.items = m.choices.items.drop n) : Restacks e m c m'
  | negate {c : Control} {m' : Machine σ} {cp : Checkpoint} {after : List Frame}
    (h : m'.choices.items = ⟨cp, after, .negation⟩ :: m.choices.items) : Restacks e m c m'
  | offer {c : Control} {m' : Machine σ} {act : Activation} {callee : Callee} {goal : Call} {untried : Untried}
    {after : List Frame} (hi : c.invoking? e m = some (act, callee, goal))
    (hu : m.alternatives? e act goal callee = some untried)
    (h : m'.choices.items = ⟨m.bindings.checkpoint, .exit m.forest.size :: after,
      .call goal m.forest.size false untried⟩ :: m.choices.items)
    (hf : m'.forest.size = m.forest.size + 1) : Restacks e m c m'
  | again {m' : Machine σ} {d : Choice} {cs : List Choice} {goal : Call} {k : Nat} {tried : Bool}
    {untried left : Untried} (hd : m.choices.items = d :: cs) (hp : d.pending = .call goal k tried untried)
    (h : m'.choices.items = { d with pending := .call goal k true left } :: cs) : Restacks e m .backtrack m'
  | answer {m' : Machine σ} {i : Inquiry} {asked : Nat}
    (h : m'.choices.items = ({ i with asked } : Inquiry).choice :: m.choices.items) : Restacks e m (.ask i) m'

theorem Restacks.same (h : m'.choices = m.choices) : Restacks e m c m' := .less 0 (congrArg Stack.items h)

theorem items_keep (m : Machine σ) (d : Choice) (goal : Call) (k : Nat) (left : Bool) (untried : Untried) :
    (m.keep d goal k left untried).choices.items =
      if left then { d with pending := .call goal k true untried } :: m.choices.items else m.choices.items := by
  unfold Machine.keep
  split <;> rfl

theorem restacks_keep {d : Choice} {cs : Stack Choice} {goal : Call} {k : Nat} {tried : Bool} {untried : Untried}
    (hd : m.choices.items = d :: cs.items) (hp : d.pending = .call goal k tried untried) {m₁ : Machine σ}
    (hm : m₁.choices = cs) (b : Bindings) (left : Bool) (after : Untried) :
    Restacks e m .backtrack (((m₁.retry k tried).withBindings b).keep d goal k left after) := by
  have hretry : ((m₁.retry k tried).withBindings b).choices = cs := (Machine.choices_retry m₁ k tried).trans hm
  have hitems := items_keep ((m₁.retry k tried).withBindings b) d goal k left after
  rw [hretry] at hitems
  cases left with
  | true => exact .again hd hp hitems
  | false => exact .less 1 (hitems.trans (congrArg (List.drop 1) hd.symm))

/-- **Every transition changes the stack of choices in one of these ways.** -/
theorem restacks_moves (h : m.Moves e c o m') : Restacks e m c m' := by
  have hcut : ∀ (m₁ : Machine σ) (height : Nat) (kept : Option Nat), m₁.choices = m.choices →
      Restacks e m c (m₁.cut height kept) := by
    intro m₁ height kept hm
    refine .less (m.choices.height - height) ?_
    rw [← hm]
    rfl
  cases h with
  | solved => exact .same rfl
  | stopped ht => exact .same rfl
  | exit ht => exact .same rfl
  | negated ht => exact hcut _ _ _ rfl
  | bodyEnd ht => exact .same rfl
  | @goal act g rest fs o m' ht hx =>
    obtain ⟨trace, hrecord⟩ := record_eq m.ticked e.options g
    rw [hrecord] at hx
    cases hx with
    | cut => exact hcut _ _ _ rfl
    | not g => exact .negate rfl
    | @offer callee call args untried hargs hu =>
      have hu : m.alternatives? e act ⟨call.functor, args⟩ callee = some untried := by
        cases callee <;> exact hu
      refine .offer (invoking?_run ht hargs) hu rfl ?_
      exact (congrArg Forest.size (Machine.forest_offer _ _ _ _ _)).trans (Forest.size_create _ _)
    | _ => exact .same rfl
  | exhausted hp => exact .same rfl
  | @back d cs o m' hp hr =>
    have hd := items_of_pop hp
    have hrest : ∀ {m₁ : Machine σ}, m₁.choices = cs → Restacks e m .backtrack m₁ := by
      intro m₁ hm
      refine .less 1 ?_
      rw [hd, hm]
      rfl
    cases hr with
    | negation hp => exact hrest rfl
    | noClause hp hf => exact hrest (Machine.choices_retry _ _ _)
    | clause hp hf => exact restacks_keep hd hp rfl _ _ _
    | noFact hp hf => exact hrest (Machine.choices_retry _ _ _)
    | fact hp hf => exact restacks_keep hd hp rfl _ _ _
    | answers hp => exact hrest (Machine.choices_retry _ _ _)
  | refused ha => exact .same rfl
  | noAnswer ha => exact .same rfl
  | answer ha hu => exact .answer rfl
  | misfitStopped ha hu ht => exact .same rfl
  | misfit ha hu ht => exact .same rfl

/-- **The application is asked for a call** that has been gone back to, or for which it has been asked before. -/
theorem asks_moves (h : m.Moves e c o m') {i' : Inquiry} (ho : o = .more (.ask i')) :
    (∃ d cs goal tried p args asked, c = .backtrack ∧ m.choices.items = d :: cs ∧
      d.pending = .call goal i'.context tried (.answers p args asked)) ∨ ∃ i, c = .ask i ∧ i.context = i'.context := by
  cases h with
  | goal ht hx =>
    cases hx with
    | unify ha hb => exact absurd ho (proceed_ne_ask _ _ _)
    | is ha => exact absurd ho (proceed_ne_ask _ _ _)
    | test x success => exact absurd ho (proceed_ne_ask _ _ _)
    | check b c success => exact absurd ho (proceed_ne_ask _ _ _)
    | assert b c hs => exact absurd ho (proceed_ne_ask _ _ _)
    | retract b c hargs hp hr => exact absurd ho (proceed_ne_ask _ _ _)
    | log b c message => exact absurd ho (proceed_ne_ask _ _ _)
    | fault g cause _ => cases ho
    | cut => cases ho
    | not g => cases ho
    | offer hargs hu => cases ho
  | back hp hr =>
    cases hr with
    | answers hpending =>
      cases ho
      exact .inl ⟨_, _, _, _, _, _, _, rfl, items_of_pop hp, hpending⟩
    | _ => cases ho
  | misfit ha hu ht =>
    cases ho
    exact .inr ⟨_, rfl, rfl⟩
  | _ => cases ho

/-! ## Contexts are numbered as calls are made -/

/-- **The contexts of the calls are there**, of those on the stack and of the one that the application is asked for. -/
structure Numbered (c : Control) (m : Machine σ) : Prop where
  choices : ∀ d ∈ m.choices.items, ∀ k, d.context? = some k → k < m.forest.size
  asked : ∀ i, c = .ask i → i.context < m.forest.size

theorem Numbered.moves (h : Numbered c m) (hle : m.forest.size ≤ m'.forest.size) (hm : m.Moves e c o m') {c' : Control}
    (hc' : ∀ i, c' = .ask i → o = .more (.ask i)) : Numbered c' m' := by
  have hbefore : ∀ d ∈ m.choices.items, ∀ k, d.context? = some k → k < m'.forest.size := fun d hd k hk =>
    Nat.lt_of_lt_of_le (h.choices d hd k hk) hle
  have hasked : ∀ {i : Inquiry}, c = .ask i → i.context < m'.forest.size := fun hi =>
    Nat.lt_of_lt_of_le (h.asked _ hi) hle
  refine ⟨?_, fun i hi => ?_⟩
  · cases restacks_moves hm with
    | less n hn =>
      rw [hn]
      exact fun d hd => hbefore d (List.mem_of_mem_drop hd)
    | negate hn =>
      rw [hn]
      exact List.forall_mem_cons.2 ⟨fun _ hk => (by cases hk), hbefore⟩
    | offer hi hu hn hf =>
      rw [hn]
      refine List.forall_mem_cons.2 ⟨fun k hk => ?_, hbefore⟩
      cases hk
      exact hf ▸ Nat.lt_succ_self _
    | again hd hp hn =>
      rw [hd] at hbefore
      obtain ⟨hd, hcs⟩ := List.forall_mem_cons.1 hbefore
      rw [hn]
      refine List.forall_mem_cons.2 ⟨fun k hk => ?_, hcs⟩
      cases hk
      exact hd _ (Choice.context?_of_call hp)
    | @answer m' i asked hn =>
      rw [hn]
      refine List.forall_mem_cons.2 ⟨fun k hk => ?_, hbefore⟩
      cases hk
      exact hasked (i := i) rfl
  · rcases asks_moves hm (hc' i hi) with ⟨d, cs, goal, tried, p, args, asked, -, hd, hp⟩ | ⟨i₀, hc, hk⟩
    · exact hbefore d (hd ▸ List.mem_cons_self) _ (Choice.context?_of_call hp)
    · exact hk ▸ hasked hc

theorem size_le_of_step (hh : e.host.KeepsRoot) (hs : m.step e c = (o, m')) : m.forest.size ≤ m'.forest.size :=
  keeps_forest_of_step (P := fun f => m.forest.size ≤ f.size) (fun ht hle => Nat.le_trans hle ht.size_le)
    (fun _ _ _ _ _ hle => Nat.le_trans hle (hh _ _ _ _ _).size_le) hs (Nat.le_refl _)

/-- **No context vanishes.** -/
theorem size_le_of_passes (hh : e.host.KeepsRoot)
    (ho : ∀ w s w' s', others w s w' s' → Forest.KeepsRoot s.tree.forest s'.tree.forest) {a a' : Moment σ}
    (hp : Passes e others a a') : a.machine.forest.size ≤ a'.machine.forest.size :=
  hp.keeps_forest (P := fun f => a.machine.forest.size ≤ f.size) (fun ht hle => Nat.le_trans hle ht.size_le)
    (fun _ _ _ _ _ hle => Nat.le_trans hle (hh _ _ _ _ _).size_le)
    (fun _ _ _ _ hw hle => Nat.le_trans hle (ho _ _ _ _ hw).size_le) (Nat.le_refl _)

theorem Numbered.passes (hh : e.host.KeepsRoot)
    (ho : ∀ w s w' s', others w s w' s' → Forest.KeepsRoot s.tree.forest s'.tree.forest) {a a' : Moment σ}
    (h : Numbered a.control a.machine) (hp : Passes e others a a') : Numbered a'.control a'.machine := by
  have hle := size_le_of_passes hh ho hp
  have hfinish : ∀ (q : Query) (m : Machine σ),
      Numbered (Moment.after (q.finish m)).control (Moment.after (q.finish m)).machine := by
    intro q m
    refine ⟨?_, fun i hi => ?_⟩
    · rw [choices_finish]
      exact List.forall_mem_nil _
    · rw [control_finish] at hi
      cases hi
  cases hp with
  | begin hq => exact ⟨h.choices, fun _ hi => nomatch hi⟩
  | again hq => exact ⟨h.choices, fun _ hi => nomatch hi⟩
  | move hs => exact h.moves (size_le_of_step hh hs) (Machine.moves_of_step hs) fun i hi => congrArg Outcome.more hi
  | solved hs => exact h.moves (size_le_of_step hh hs) (Machine.moves_of_step hs) fun _ hi => nomatch hi
  | exhausted hs => exact hfinish _ _
  | failed hs => exact hfinish _ _
  | @close q w s =>
    by_cases hq : q.status = .ended
    · rw [close_ended hq]
      exact h
    · rw [after_close hq]
      exact hfinish _ _
  | @other q w w' s s' hw =>
    refine ⟨fun d hd k hk => Nat.lt_of_lt_of_le (h.choices d hd k hk) hle, fun i hi => ?_⟩
    unfold Moment.control at hi
    simp only at hi
    split at hi <;> cases hi

/-- **Contexts are numbered as calls are made**, at every moment in the life of a query. -/
theorem numbered_of_comes (hh : e.host.KeepsRoot)
    (ho : ∀ w s w' s', others w s w' s' → Forest.KeepsRoot s.tree.forest s'.tree.forest) {l : Library} {owner : Nat}
    {goal : Call} {vars : VarTable} {q : Query} (hq : ofGoal l owner goal vars = .ok q) {w : σ} {s : Session}
    {a : Moment σ} (ha : Comes e others (.rest q w s) a) : Numbered a.control a.machine := by
  refine ha.keeps (P := fun a => Numbered a.control a.machine) (fun _ _ h hp => h.passes hh ho hp) ?_
  obtain ⟨md, g, -, -, rfl⟩ := ofGoal_eq_ok.1 hq
  exact ⟨List.forall_mem_nil _, fun _ hi => nomatch hi⟩

end Remedy.Query
