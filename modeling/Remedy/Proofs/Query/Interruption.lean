import Remedy.Proofs.Query.Cancellation
import Remedy.Proofs.Query.Slots
/-!
# Proofs.Query.Interruption — what a call tells whose root is cancelled meanwhile

The root is cancelled during a search only by the application while it is asked, and the search cannot come to another
solution.  How it ends depends on what the application has answered (`cancellation_reported`): with its error, if it
has told one; with the cancellation, or the limit of steps, if there is a frame to run or somebody to ask.  There is one
other end: the answer is no, and going back finds nothing but rules and facts that do not fit (`spent`).  Going back
checks nothing, so the search is exhausted, and the call says that there are no more solutions.
-/
namespace Remedy.Query

open Context (Forest)

variable {σ : Type} {e : Engine σ} {m m' : Machine σ} {o : Outcome} {others : σ → Session → σ → Session → Prop}

/-- The bindings after none of the rules or facts that a call has left has fitted; none if there is something to go on
with. -/
def Choice.spent? (c : Choice) (b : Bindings) : Option Bindings :=
  match c.pending with
  | .call goal _ _ (.clauses _ rest) =>
    match firstClause goal (b.rewind c.checkpoint) rest with
    | (b, none) => some b
    | (_, some _) => none
  | .call goal _ _ (.facts rest) =>
    match firstFact goal (b.rewind c.checkpoint) rest with
    | (b, none) => some b
    | (_, some _) => none
  | _ => none

/-- **Going back finds nothing to go on with**: all choices are calls whose rules or facts do not fit. -/
def spent : Bindings → List Choice → Bool
  | _, [] => true
  | b, c :: cs => (c.spent? b).any fun b => spent b cs

/-! ## Under a cancelled root -/

/-- **The error of a search that is stopped**: the cancellation, unless the limit of steps comes first. -/
def Stops (e : Engine σ) (steps : Nat) (cause : QueryError) : Prop :=
  cause = .cancelled ∨ cause = .stepLimit e.options.maxSteps ∧ e.options.maxSteps ≤ steps

/-- **How going back ends under a cancelled root**, whether there is nothing to go on with, or there is. -/
def Drains (e : Engine σ) (steps : Nat) (spent : Bool) (r : Except QueryError Bool) : Prop :=
  if spent then r = .ok false else ∃ cause, r = .error cause ∧ Stops e steps cause

theorem tick_cancelled (hc : m.forest.isCancelled 0 = true) :
    ∃ cause, (m.tick e.options).1 = some cause ∧ Stops e m.steps cause := by
  have hs : m.ticked.session.isCancelled = true := hc
  unfold Machine.tick
  simp only
  split
  · rename_i hlt
    have hlt : e.options.maxSteps < m.steps + 1 := hlt
    exact ⟨_, rfl, .inr ⟨rfl, Nat.le_of_lt_succ hlt⟩⟩
  · split
    · exact ⟨_, rfl, .inl rfl⟩
    · rename_i hnot
      exact absurd hs hnot

theorem run_cancelled (hc : m.forest.isCancelled 0 = true) {frames : List Frame} (hne : frames ≠ []) :
    ∃ cause, (m.run e (.run frames)).1 = .error cause ∧ Stops e m.steps cause := by
  obtain ⟨f, fs, rfl⟩ := List.exists_cons_of_ne_nil hne
  obtain ⟨cause, ht, hstops⟩ := tick_cancelled (e := e) hc
  refine ⟨cause, ?_, hstops⟩
  have hstep : m.step e (.run (f :: fs)) = (.failed cause, (m.tick e.options).2) := by
    rw [Machine.step]
    split
    · rename_i cause' m' h
      rw [h] at ht
      rw [h, Option.some.inj ht]
    · rename_i m' h
      rw [h] at ht
      cases ht
  rw [Machine.run_eq, hstep]

theorem ask_cancelled {i : Inquiry} (hc : m.forest.isCancelled i.context = true) :
    (m.run e (.ask i)).1 = .error .cancelled := by
  have hreply : m.reply e i = (.error .cancelled, m.world, m.session) := if_pos hc
  have hstep : m.step e (.ask i) = (.failed .cancelled, m.heard m.world m.session) := by
    have hnext : e.host.next e.options.limit m.world m.session i.context i.predicate i.args i.asked =
        (.error .cancelled, m.world, m.session) := hreply
    rw [Machine.step, Machine.ask, hnext]
    rfl
  rw [Machine.run_eq, hstep]

def Control.Busy : Control → Prop
  | .run frames => frames ≠ []
  | .backtrack => False
  | .ask _ => True

theorem busy_cancelled {c : Control} (hr : Rooted m) (hc : m.forest.isCancelled 0 = true) (hs : c.Stands m)
    (hb : c.Busy) : ∃ cause, (m.run e c).1 = .error cause ∧ Stops e m.steps cause := by
  cases c with
  | run frames => exact run_cancelled hc hb
  | backtrack => exact hb.elim
  | ask i => exact ⟨_, ask_cancelled ((Choice.Stands.connected hs i.context rfl).isCancelled hr.sane hc), .inl rfl⟩

/-- **A choice that is gone back to** has something to go on with, or is spent and leaves the choices below. -/
theorem resumes_spent {c : Choice} {b : Bindings} (hb : m.bindings = b.rewind c.checkpoint) (hafter : c.after ≠ [])
    (h : m.Resumes c o m') : m'.steps = m.steps ∧
      ((∃ c', o = .more c' ∧ c'.Busy ∧ c.spent? b = none) ∨
        o = .more .backtrack ∧ c.spent? b = some m'.bindings ∧ m'.choices = m.choices) := by
  unfold Choice.spent?
  cases h with
  | negation hp =>
    rw [hp]
    exact ⟨rfl, .inl ⟨_, rfl, hafter, rfl⟩⟩
  | @noClause goal k owner tried clauses b' hp hf =>
    rw [hb] at hf
    simp only [hp, hf]
    exact ⟨Machine.steps_retry m k tried, .inr ⟨trivial, rfl, Machine.choices_retry m k tried⟩⟩
  | @clause goal k owner base tried clauses rest cl b' hp hf =>
    rw [hb] at hf
    simp only [hp, hf]
    exact ⟨(Machine.steps_keep _ c goal k _ _).trans (Machine.steps_retry m k tried),
      .inl ⟨_, rfl, List.cons_ne_nil _ _, trivial⟩⟩
  | @noFact goal k tried facts b' hp hf =>
    rw [hb] at hf
    simp only [hp, hf]
    exact ⟨Machine.steps_retry m k tried, .inr ⟨trivial, rfl, Machine.choices_retry m k tried⟩⟩
  | @fact goal k tried facts rest b' hp hf =>
    rw [hb] at hf
    simp only [hp, hf]
    exact ⟨(Machine.steps_keep _ c goal k _ _).trans (Machine.steps_retry m k tried), .inl ⟨_, rfl, hafter, trivial⟩⟩
  | @answers goal args k asked tried p hp =>
    rw [hp]
    exact ⟨Machine.steps_retry m k tried, .inl ⟨_, rfl, trivial, rfl⟩⟩

/-- **Going back under a cancelled root** exhausts the search if nothing is left to go on with, and stops it
otherwise. -/
theorem backtrack_cancelled (hh : e.host.Sparing) : ∀ (cs : List Choice) (m : Machine σ), m.choices.items = cs →
    Rooted m → m.forest.isCancelled 0 = true → Drains e m.steps (spent m.bindings cs) (m.run e .backtrack).1 := by
  intro cs
  induction cs with
  | nil =>
    intro m hcs hr hc
    rw [Machine.run_eq]
    rcases hs : m.step e .backtrack with ⟨o, m'⟩
    cases Machine.moves_of_step hs with
    | exhausted hp => exact rfl
    | back hp hres =>
      rw [items_of_pop hp] at hcs
      cases hcs
  | cons c cs ih =>
    intro m hcs hr hc
    rcases hs : m.step e .backtrack with ⟨o, m'⟩
    have hm := Machine.moves_of_step hs
    have hby : RootedBy o m' := hr.moves hh (c := .backtrack) trivial hm
    have hroot := (Machine.tended_moves hm (fun _ he => nomatch he)).isCancelled_eq hr.sane.root
    rw [hc] at hroot
    rw [Machine.run_eq, hs]
    cases hm with
    | exhausted hp =>
      rw [items_of_pop_none hp] at hcs
      cases hcs
    | @back d ds o m' hp hres =>
      have hstands := hr.choices
      rw [items_of_pop hp] at hcs hstands
      cases hcs
      obtain ⟨hsteps, ⟨c', rfl, hbusy, hnone⟩ | ⟨rfl, hsome, hcs⟩⟩ :=
        resumes_spent (b := m.bindings) rfl hstands.1.after hres
      · -- there is something to go on with, and the search stops there
        rw [spent, hnone, Option.any_none, Drains, if_neg Bool.false_ne_true]
        obtain ⟨cause, herror, hstops⟩ := busy_cancelled (e := e) hby.rooted hroot (hby.control c' rfl) hbusy
        exact ⟨cause, herror, hsteps ▸ hstops⟩
      · have hrest := ih m' (congrArg Stack.items hcs) hby.rooted hroot
        rw [hsteps] at hrest
        rw [spent, hsome, Option.any_some]
        exact hrest

/-! ## The answer that cancels -/

/-- **What a search comes to** that is asked for the next solution. -/
inductive Searches (e : Engine σ) (c : Control) (m : Machine σ) : Control → Machine σ → Prop
  | refl : Searches e c m c m
  | move {c₁ c₂ : Control} {m₁ m₂ : Machine σ} (h : Searches e c m c₁ m₁) (hs : m₁.step e c₁ = (.more c₂, m₂)) :
    Searches e c m c₂ m₂

theorem Searches.comes {c c₁ : Control} {m₁ : Machine σ} (h : Searches e c m c₁ m₁) (q : Query) :
    Comes e others (.search q c m) (.search q c₁ m₁) := by
  induction h with
  | refl => exact .refl
  | move _ hs ih => exact ih.step (.move hs)

/-- **The search asks the application, which cancels the root.** -/
structure Interrupts (e : Engine σ) (c : Control) (m : Machine σ) (i : Inquiry) (m₁ : Machine σ) : Prop where
  comes : Searches e c m (.ask i) m₁
  before : m₁.session.isCancelled = false
  after : (m₁.reply e i).2.2.isCancelled = true

theorem not_cancelled_of_moves {c : Control} (hm : m.Moves e c o m') (h : m.forest.isCancelled 0 = false)
    (hi : ∀ i, c = .ask i → (m.reply e i).2.2.isCancelled = false) : m'.forest.isCancelled 0 = false := by
  cases c with
  | run frames => exact (Machine.tended_moves hm (fun _ he => nomatch he)).root_not_cancelled h
  | backtrack => exact (Machine.tended_moves hm (fun _ he => nomatch he)).root_not_cancelled h
  | ask i => exact (Machine.tended_ask hm).root_not_cancelled (hi i rfl)

/-- **A root that is cancelled during a search** has been cancelled by the application, and the rest of the search is
what comes of that answer. -/
theorem interrupts_of_cancelled {c : Control} (h : m.forest.isCancelled 0 = false)
    (h' : (m.run e c).2.forest.isCancelled 0 = true) :
    ∃ i m₁, Interrupts e c m i m₁ ∧ m.run e c = m₁.run e (.ask i) := by
  refine Classical.byContradiction fun hno => ?_
  -- until the application cancels the root, it is not cancelled
  have hcalm : ∀ c₁ m₁ o m₂, (Searches e c m c₁ m₁ ∧ m.run e c = m₁.run e c₁ ∧ m₁.forest.isCancelled 0 = false) →
      m₁.step e c₁ = (o, m₂) → m₂.forest.isCancelled 0 = false := by
    rintro c₁ m₁ o m₂ ⟨hs, hrun, hc⟩ hstep
    refine not_cancelled_of_moves (Machine.moves_of_step hstep) hc fun i hi => ?_
    subst hi
    cases ha : (m₁.reply e i).2.2.isCancelled with
    | false => rfl
    | true => exact absurd ⟨i, m₁, ⟨hs, hc, ha⟩, hrun⟩ hno
  have hmore : ∀ c₁ m₁ c₂ m₂, (Searches e c m c₁ m₁ ∧ m.run e c = m₁.run e c₁ ∧ m₁.forest.isCancelled 0 = false) →
      m₁.step e c₁ = (.more c₂, m₂) →
        (Searches e c m c₂ m₂ ∧ m.run e c = m₂.run e c₂ ∧ m₂.forest.isCancelled 0 = false) := by
    intro c₁ m₁ c₂ m₂ hp hstep
    refine ⟨hp.1.move hstep, hp.2.1.trans ?_, hcalm _ _ _ _ hp hstep⟩
    rw [Machine.run_eq, hstep]
  obtain ⟨c₁, m₁, hp, hends⟩ := Machine.run_ends hmore c m ⟨.refl, rfl, h⟩
  have hend : (m.run e c).2.forest.isCancelled 0 = false := by
    generalize m.run e c = r at hends
    cases hends with
    | solved hs => exact hcalm _ _ _ _ hp hs
    | exhausted hs => exact hcalm _ _ _ _ hp hs
    | failed hs => exact hcalm _ _ _ _ hp hs
  rw [h'] at hend
  cases hend

/-- **How a search ends** whose root the application cancels while it is asked. -/
def Reported (e : Engine σ) (i : Inquiry) (m : Machine σ) (r : Except QueryError Bool) : Prop :=
  match (m.reply e i).1 with
  | .error cause => r = .error cause
  | .ok (some _) => ∃ cause, r = .error cause ∧ Stops e m.steps cause
  | .ok none => Drains e m.steps (spent m.bindings m.choices.items) r

theorem ask_reported (hh : e.host.Sparing) {i : Inquiry} (hr : Rooted m) (hi : i.choice.Stands m.forest m.choices.items)
    (hc : (m.reply e i).2.2.isCancelled = true) : Reported e i m (m.run e (.ask i)).1 := by
  rcases hs : m.step e (.ask i) with ⟨o, m'⟩
  have hm := Machine.moves_of_step hs
  have hby : RootedBy o m' := hr.moves hh (c := .ask i) hi hm
  have hspared : Forest.Spared m.forest (m.reply e i).2.2.tree.forest := (spares_reply hh m i).spared hr.sane
  have hroot : m'.forest.isCancelled 0 = true := ((Machine.tended_ask hm).isCancelled_eq hspared.sane.root).trans hc
  rw [Machine.run_eq, hs]
  unfold Reported
  cases hm with
  | refused ha =>
    rw [ha]
  | @noAnswer i w s ha =>
    rw [ha]
    exact backtrack_cancelled hh m.choices.items ((m.heard w s).onTree (·.detach i.context)) rfl hby.rooted hroot
  | @answer i a w s ha hu =>
    rw [ha]
    exact run_cancelled (e := e) hroot hi.after
  | @misfitStopped i a w s cause ha hu ht =>
    rw [ha]
    have hheard : ((m.heard w s).withBindings (m.matched i a).1).forest.isCancelled 0 = true := hroot
    obtain ⟨cause', ht', hstops⟩ := tick_cancelled (e := e) hheard
    rw [ht] at ht'
    exact ⟨cause, rfl, Option.some.inj ht' ▸ hstops⟩
  | @misfit i a w s ha hu ht =>
    have hheard : ((m.heard w s).withBindings (m.matched i a).1).forest.isCancelled 0 = true := hroot
    rw [not_cancelled_of_tick ht] at hheard
    cases hheard

/-- **What a call tells** whose root the application cancels: that there are no more solutions just if the application
had no answer and going back finds nothing to go on with, and otherwise an error, which is the cancellation unless the
application has told one or the limit of steps has been reached. -/
structure Tells (e : Engine σ) (i : Inquiry) (m : Machine σ) (r : Except QueryError (Option Solution)) : Prop where
  missed : r = .ok none ↔ (m.reply e i).1 = .ok none ∧ spent m.bindings m.choices.items = true
  error : r ≠ .ok none → ∃ cause, r = .error cause ∧ (Stops e m.steps cause ∨ (m.reply e i).1 = .error cause)

theorem Tells.of_error {i : Inquiry} {cause : QueryError} (hs : Stops e m.steps cause ∨ (m.reply e i).1 = .error cause)
    (hn : (m.reply e i).1 = .ok none → spent m.bindings m.choices.items = false) : Tells e i m (.error cause) := by
  refine ⟨⟨(fun h => nomatch h), fun ⟨ha, hsp⟩ => ?_⟩, fun _ => ⟨cause, rfl, hs⟩⟩
  rw [hn ha] at hsp
  cases hsp

theorem Reported.tells {i : Inquiry} {r : Except QueryError Bool} (h : Reported e i m r)
    {told : Except QueryError (Option Solution)} (hno : r = .ok false → told = .ok none)
    (herror : ∀ cause, r = .error cause → told = .error cause) : Tells e i m told := by
  unfold Reported at h
  split at h
  · rename_i cause ha
    rw [herror cause h]
    exact .of_error (.inr ha) fun hn => by rw [ha] at hn; cases hn
  · rename_i a ha
    obtain ⟨cause, hr, hs⟩ := h
    rw [herror cause hr]
    exact .of_error (.inl hs) fun hn => by rw [ha] at hn; cases hn
  · rename_i ha
    unfold Drains at h
    split at h
    · rename_i hsp
      rw [hno h]
      exact ⟨⟨fun _ => ⟨ha, hsp⟩, fun _ => rfl⟩, fun hne => absurd rfl hne⟩
    · rename_i hsp
      obtain ⟨cause, hr, hs⟩ := h
      rw [herror cause hr]
      exact .of_error (.inl hs) fun _ => Bool.eq_false_iff.2 hsp

theorem cancelled_of_goOn {q : Query} {c : Control} (h : (q.goOn e m c).2.2.2.isCancelled = true) :
    (m.run e c).2.forest.isCancelled 0 = true := by
  have hend : ∀ {m' : Machine σ}, (q.finish m').2.2.isCancelled = true → m'.forest.isCancelled 0 = true := by
    intro m' hf
    cases hm : m'.forest.isCancelled 0 with
    | true => rfl
    | false =>
      have hcalm : (q.finish m').2.2.isCancelled = false := (tended_finish q m').root_not_cancelled hm
      rw [hf] at hcalm
      cases hcalm
  unfold goOn at h
  generalize m.run e c = r at h
  obtain ⟨cause | found, m'⟩ := r
  · have hm : (m'.rewind q.origin).forest.isCancelled 0 = true := hend h
    exact hm
  · cases found with
    | true => exact h
    | false => exact hend h

theorem goOn_tells (hh : e.host.Sparing) {q : Query} {c : Control} (h : Intact (.search q c m))
    (hc : m.forest.isCancelled 0 = false) (hc' : (q.goOn e m c).2.2.2.isCancelled = true) :
    ∃ i m₁, Interrupts e c m i m₁ ∧ Tells e i m₁ (q.goOn e m c).1 := by
  have hstep : ∀ a b, Intact a → Passes e (fun _ _ _ _ => False) a b → Intact b :=
    fun _ _ ha hp => ha.passes hh (fun _ _ _ _ hf => hf.elim) hp
  obtain ⟨i, m₁, hi, hrun⟩ := interrupts_of_cancelled hc (cancelled_of_goOn hc')
  have hi₁ : Intact (.search q (.ask i) m₁) := (hi.comes.comes q).keeps hstep h
  have hreported : Reported e i m₁ (m₁.run e (.ask i)).1 := ask_reported hh hi₁.rooted hi₁.control hi.after
  rw [← hrun] at hreported
  refine ⟨i, m₁, hi, hreported.tells (fun hr => ?_) fun cause hr => ?_⟩
  · unfold goOn
    rcases hres : m.run e c with ⟨r, m'⟩
    rw [hres] at hr
    cases hr
    rfl
  · unfold goOn
    rcases hres : m.run e c with ⟨r, m'⟩
    rw [hres] at hr
    cases hr
    rfl

/-- **A call during which the root is cancelled** tells of it, unless the application, when it cancelled the root, had no
answer, and going back finds nothing to go on with. -/
theorem cancellation_reported (e : Engine σ) (others : σ → Session → σ → Session → Prop) (hh : e.host.Sparing)
    (ho : ∀ w s w' s', others w s w' s' → Forest.Spares s.tree.forest s'.tree.forest) {owner : Nat} {goal : Call}
    {vars : VarTable} {q : Query} (hq : ofGoal e.library owner goal vars = .ok q) {w : σ} {s : Session}
    (hs : s.tree.forest.Made) {q₁ : Query} {w₁ : σ} {s₁ : Session}
    (ha : Comes e others (.rest q w s) (.rest q₁ w₁ s₁)) (hc : s₁.isCancelled = false)
    (hc' : (q₁.next e w₁ s₁).2.2.2.isCancelled = true) :
    ∃ i m, Interrupts e (Moment.rest q₁ w₁ s₁).control (q₁.machine w₁ s₁) i m ∧
      Tells e i m (q₁.next e w₁ s₁).1 := by
  have hintact : Intact (.rest q₁ w₁ s₁) := ha.keeps (fun _ _ h hp => h.passes hh ho hp) (intact_entry hq _ hs)
  unfold next at hc' ⊢
  unfold Moment.control
  split at hc'
  · rw [hc] at hc'
    cases hc'
  · rename_i frames hst
    simp only [hst]
    exact goOn_tells hh (hintact.passes hh ho (.begin hst)) hc hc'
  · rename_i hst
    simp only [hst]
    exact goOn_tells hh (hintact.passes hh ho (.again hst)) hc hc'

/-! ## An example

The rule `p :- Stop()`, where `Stop` is a predicate of the application that cancels the root and then says no. -/

def stop : External := ⟨"Stop", 0, some 0, [], true, 0⟩

def stopping : RuleModule :=
  (RuleModule.compile ⟨[]⟩ "stopping" ⟨[("Stop", .predicate stop)], []⟩ (RuleText.numbered ["p :- Stop()"])).toOption.getD
    ⟨"", [], [], .none⟩

def stoppingEngine : Engine Unit :=
  ⟨⟨[stopping]⟩, ⟨fun w s _ _ _ => ⟨w, s.onTree (·.cancel 0), .millis 0, .ok none⟩⟩, .standard⟩

def stoppingQuery : Query := (ofGoal ⟨[stopping]⟩ 0 ⟨"p", []⟩ .empty).toOption.getD ⟨[], ⟨0, 0⟩, .ended, .empty, .empty, 0⟩

theorem sparing_stopping : stoppingEngine.host.Sparing := by
  intro w s p args n
  have hf : (s.onTree (·.cancel 0)).tree.forest = (s.tree.forest.cancel 0).1 :=
    Context.Tree.forest_change s.tree (·.cancel 0)
  have hs : Forest.Spares s.tree.forest (s.onTree (·.cancel 0)).tree.forest := by
    rw [hf]
    exact .cancel .refl 0
  exact hs

theorem cancellation_reported_stopping :
    let e := stoppingEngine
    ofGoal e.library 0 ⟨"p", []⟩ .empty = .ok stoppingQuery ∧ (stoppingQuery.next e () .new).2.2.2.isCancelled = true ∧
      ∃ i m, Interrupts e (Moment.rest stoppingQuery () .new).control (stoppingQuery.machine () .new) i m ∧
        Tells e i m (stoppingQuery.next e () .new).1 := by
  have hok : (ofGoal ⟨[stopping]⟩ 0 ⟨"p", []⟩ .empty).isOk = true := by decide +kernel
  have hq : ofGoal stoppingEngine.library 0 ⟨"p", []⟩ .empty = .ok stoppingQuery := eq_ok_of_isOk hok _
  have hc : (stoppingQuery.next stoppingEngine () .new).2.2.2.isCancelled = true := by decide +kernel
  exact ⟨hq, hc, cancellation_reported stoppingEngine (fun _ _ _ _ => False) sparing_stopping
    (fun _ _ _ _ h => h.elim) hq .root .refl rfl hc⟩

/-- The root has been cancelled, and what is told is that there are no solutions. -/
theorem cancellation_unreported_stopping :
    let r := stoppingQuery.next stoppingEngine () .new
    ofGoal stoppingEngine.library 0 ⟨"p", []⟩ .empty = .ok stoppingQuery ∧ Session.new.isCancelled = false ∧
      r.2.2.2.isCancelled = true ∧ r.1 = .ok none ∧
        (holds stoppingEngine 0 ⟨"p", []⟩ () .new).1 = .ok false := by
  have hq : (ofGoal ⟨[stopping]⟩ 0 ⟨"p", []⟩ .empty).isOk = true := by decide +kernel
  refine ⟨eq_ok_of_isOk hq _, rfl, by decide +kernel, ?_, ?_⟩
  · have hnone : (stoppingQuery.next stoppingEngine () .new).1.toOption.map Option.isNone = some true := by decide +kernel
    obtain ⟨found, hfound, hn⟩ := Option.map_eq_some_iff.1 hnone
    rw [Option.isNone_iff_eq_none.1 hn] at hfound
    exact eq_ok_of_toOption hfound
  · exact eq_ok_of_toOption (by decide +kernel)

end Remedy.Query
