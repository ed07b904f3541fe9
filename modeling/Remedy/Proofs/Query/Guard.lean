import Remedy.Proofs.Program.Library
import Remedy.Proofs.Query.Slots
/-!
# Proofs.Query.Guard — variables that have not been mentioned are untouched

A rule that is being run has variables that neither its head nor its goals so far have mentioned.  Their slots are
untouched: they hold nothing, and no term that a slot holds refers to them.  Running a goal touches what the goal
mentions and what the rules it calls mention, whose slots are newer; so the guard over the rest of the rule stays, and
so does the guard over the frames below, whose slots are older (`Guarding.executes`).  A choice guards the frames after
it for the bindings it goes back to, which later bindings do not change (`Guarding.extend`); its goal is unified anew
with every alternative, so the guard leaves out what the goal mentions.
-/
namespace Remedy.Query

open Bindings (Extends InPlace Confined Untouched)

variable {σ : Type} {l : Library} {P P' : Nat → Prop} {b₀ b b' : Bindings}

/-! ## Frames -/

/-- **A frame is guarded**: its goals are what is left of a rule of its module, and the slots of variables that have
not been mentioned have a property. -/
def Frame.Guarded (l : Library) (P : Nat → Prop) : Frame → Prop
  | .body act goals => ∃ md mentioned, l.module? act.owner = some md ∧ Rest l md mentioned goals ∧
      ∀ g ∈ goals, ∀ v ∈ g.mentions, (∀ u ∈ mentioned, u.2 ≠ v.2) → P (v.2 + act.base)
  | .exit _ | .negated _ => True

/-- A frame stands over another: the variables of its rule have newer slots than those that the other mentions. -/
def Frame.Over : Frame → Frame → Prop
  | .body act _, f => f.Below act.base
  | .exit _, _ | .negated _, _ => True

/-- **The frames are guarded**, and each stands over those after it. -/
structure Guards (l : Library) (P : Nat → Prop) (fs : List Frame) : Prop where
  each : ∀ f ∈ fs, f.Guarded l P
  stacked : fs.Pairwise Frame.Over

theorem Frame.Guarded.imp (hP : ∀ x, P x → P' x) : ∀ {f : Frame}, f.Guarded l P → f.Guarded l P'
  | .body _ _, ⟨md, mentioned, hm, hr, hv⟩ => ⟨md, mentioned, hm, hr, fun g hg v hvg hu => hP _ (hv g hg v hvg hu)⟩
  | .exit _, _ | .negated _, _ => trivial

theorem Frame.Guarded.below {n : Nat} : ∀ {f : Frame}, f.Guarded l P → f.Below n → f.Guarded l (fun x => P x ∧ x < n)
  | .body act _, ⟨md, mentioned, hm, hr, hv⟩, hb => by
    refine ⟨md, mentioned, hm, hr, fun g hg v hvg hu => ⟨hv g hg v hvg hu, ?_⟩⟩
    exact Nat.lt_of_lt_of_le (Nat.add_lt_add_right (Goal.span_le_iff.1 (Nat.le_refl _) v hvg) _) (hb.2 g hg)
  | .exit _, _, _ | .negated _, _, _ => trivial

theorem Guards.imp {fs : List Frame} (h : Guards l P fs) (hP : ∀ x, P x → P' x) : Guards l P' fs :=
  ⟨fun f hf => (h.each f hf).imp hP, h.stacked⟩

theorem Guards.below {fs : List Frame} {n : Nat} (h : Guards l P fs) (hb : ∀ f ∈ fs, f.Below n) :
    Guards l (fun x => P x ∧ x < n) fs := ⟨fun f hf => (h.each f hf).below (hb f hf), h.stacked⟩

theorem Guards.tail {f : Frame} {fs : List Frame} (h : Guards l P (f :: fs)) : Guards l P fs :=
  ⟨(List.forall_mem_cons.1 h.each).2, h.stacked.of_cons⟩

theorem Guards.cons {f : Frame} {fs : List Frame} (hf : f.Guarded l P) (ho : ∀ g ∈ fs, f.Over g)
    (h : Guards l P fs) : Guards l P (f :: fs) :=
  ⟨List.forall_mem_cons.2 ⟨hf, h.each⟩, List.pairwise_cons.2 ⟨ho, h.stacked⟩⟩

/-- The goal, run in this activation, does not mention a slot. -/
def Spares (act : Activation) (g : Goal Callee) (x : Nat) : Prop := ∀ v ∈ g.touched, v.2 + act.base ≠ x

/-- **The frames after a goal are guarded against what the goal mentions.** -/
theorem Guards.after {act : Activation} {g : Goal Callee} {rest : List (Goal Callee)} {fs : List Frame}
    (h : Guards l P (.body act (g :: rest) :: fs)) :
    Guards l (fun x => P x ∧ Spares act g x) (Machine.afterGoal act rest fs) := by
  obtain ⟨⟨md, mentioned, hm, hr, hv⟩, -⟩ := List.forall_mem_cons.1 h.each
  obtain ⟨hover, -⟩ := List.pairwise_cons.1 h.stacked
  have hfs : Guards l (fun x => P x ∧ Spares act g x) fs := by
    refine (h.tail.below hover).imp fun x hx => ⟨hx.1, fun v _ hvx => ?_⟩
    have hlt := hx.2
    omega
  unfold Machine.afterGoal
  split
  · exact hfs
  · refine hfs.cons ⟨md, mentioned ++ g.touched, hm, hr.next, fun g' hg' v hvg hu => ?_⟩ hover
    obtain ⟨hu, ht⟩ := List.forall_mem_append.1 hu
    exact ⟨hv g' (List.mem_cons_of_mem _ hg') v hvg hu, fun w hw hwv => ht w hw (Nat.add_right_cancel hwv)⟩

/-! ## Choices -/

def Pending.Spares (x : Nat) : Pending → Prop
  | .negation => True
  | .call goal _ _ _ => goal.Inside (· ≠ x)

/-- The rules that are left to try are rules of the module, and the application is asked with a number of arguments
that it accepts. -/
def Pending.Fits (l : Library) : Pending → Prop
  | .call _ _ _ (.clauses owner rest) =>
    ∀ cl ∈ rest, ∃ md, l.module? owner = some md ∧ ∃ p ∈ md.predicates, cl ∈ p.clauses
  | .call _ _ _ (.answers p args _) => args.Admitted (some (p.least, p.most))
  | .call _ _ _ (.facts _) | .negation => True

/-- **A choice is guarded** for the bindings it goes back to. -/
structure Choice.Guarded (l : Library) (b : Bindings) (c : Choice) : Prop where
  after : Guards l (fun x => b.Untouched x ∧ c.pending.Spares x) c.after
  fits : c.pending.Fits l

def Guarding (l : Library) (b : Bindings) (cs : List Choice) : Prop :=
  ∀ c ∈ cs, c.Guarded l (b.rewind c.checkpoint)

/-- **What is being run is guarded.** -/
def Control.Guarded (l : Library) (b : Bindings) : Control → Prop
  | .run frames => Guards l b.Untouched frames
  | .backtrack => True
  | .ask i => i.choice.Guarded l (b.rewind i.checkpoint)

/-- **Later bindings do not change where older choices go back to.** -/
theorem Descends.rewind_eq : ∀ {cs : List Choice} {b b' : Bindings}, Descends b₀ b cs → Extends b b' →
    ∀ c ∈ cs, b'.rewind c.checkpoint = b.rewind c.checkpoint
  | [], _, _, _, _ => List.forall_mem_nil _
  | c :: cs, b, b', ⟨b₁, hc, he₁, _, _, hrest⟩, he => by
    refine List.forall_mem_cons.2 ⟨?_, fun d hd => ?_⟩
    · rw [hc, (he₁.trans he).rewind_eq, he₁.rewind_eq]
    · rw [hrest.rewind_eq (he₁.trans he) d hd, hrest.rewind_eq he₁ d hd]

theorem Guarding.extend {cs : List Choice} (h : Guarding l b cs) (hd : Descends b₀ b cs) (he : Extends b b') :
    Guarding l b' cs := by
  intro c hc
  rw [hd.rewind_eq he c hc]
  exact h c hc

theorem Guarding.restrict {cs : List Choice} (h : Guarding l b' cs) (hd : Descends b₀ b cs) (he : Extends b b') :
    Guarding l b cs := by
  intro c hc
  rw [← hd.rewind_eq he c hc]
  exact h c hc

theorem Guarding.push {cs : List Choice} (h : Guarding l b cs) {c : Choice} (hc : c.checkpoint = b.checkpoint)
    (hg : c.Guarded l b) : Guarding l b (c :: cs) := by
  refine List.forall_mem_cons.2 ⟨?_, h⟩
  rw [hc, Bindings.rewind_checkpoint]
  exact hg

/-! ## Running a goal -/

variable {e : Engine σ} {m m' : Machine σ} {o : Outcome} {act : Activation} {after : List Frame}

structure GuardedBy (l : Library) (o : Outcome) (m' : Machine σ) : Prop where
  choices : Guarding l m'.bindings m'.choices.items
  control : ∀ c, o = .more c → c.Guarded l m'.bindings

theorem GuardedBy.more (h : Guarding l m'.bindings m'.choices.items) {c : Control} (hc : c.Guarded l m'.bindings) :
    GuardedBy l (.more c) m' := by
  refine ⟨h, fun c' hc' => ?_⟩
  cases hc'
  exact hc

theorem guarded_proceed (success : Bool) (ha : Guards l b.Untouched after) :
    ∀ c, Outcome.proceed success after = .more c → c.Guarded l b := by
  intro c hc
  cases hc
  cases success with
  | true => exact ha
  | false => trivial

theorem inside_of_spares {g : Goal Callee} {x : Nat} (hx : Spares act g x) {vs ws : List (String × Nat)}
    (hvs : ∀ v ∈ vs, v ∈ g.touched) (hws : ws = vs.map (Term.shift act.base)) : ∀ w ∈ ws, w.2 ≠ x := by
  subst hws
  intro w hw
  obtain ⟨v, hv, rfl⟩ := List.mem_map.1 hw
  exact hx v (hvs v hv)

theorem mentions_instantiate {a t : Term} (h : m.instantiate act a = .ok t) :
    t.mentions = a.mentions.map (Term.shift act.base) := by
  unfold Machine.instantiate at h
  split at h
  · rename_i u hu
    cases h
    exact Term.mentions_instantiate hu
  · cases h

theorem GuardedBy.bind (h : Guarding l m.bindings m.choices.items) (hk : Kept b₀ m) (he : Extends m.bindings b)
    {g : Goal Callee} (ha : Guards l (fun x => m.bindings.Untouched x ∧ Spares act g x) after)
    (hb : ∀ x, m.bindings.Untouched x → Spares act g x → Confined (· ≠ x) m.bindings b) (success : Bool)
    (hm : m'.bindings = b) (hc : m'.choices = m.choices) : GuardedBy l (.proceed success after) m' := by
  subst hm
  refine ⟨?_, guarded_proceed success (ha.imp fun x hx => hx.1.confined (hb x hx.1 hx.2))⟩
  rw [hc]
  exact h.extend hk.descends he

theorem inside_factOf {goal fact : Call} {x : Nat} (hb : m.bindings.Untouched x) (hg : goal.Inside (· ≠ x))
    (hf : m.factOf goal = .ok fact) : fact.Inside (· ≠ x) := by
  unfold Machine.factOf at hf
  split at hf
  · rename_i fact' hfact
    cases hf
    obtain ⟨t, ht, hfact⟩ := Option.bind_eq_some_iff.1 hfact
    obtain ⟨a, ha, rfl⟩ := Option.map_eq_some_iff.1 ht
    have hin := hb.unmentioned.resolve (hg.arg (List.mem_of_head? ha))
    exact fun v hv => hin v (Term.mentions_of_asFact? hfact v hv)
  · cases hf

theorem fits_alternatives {callee : Callee} {c : Call} {args : List (Arg Term)} {untried : Untried} {k : Nat}
    (hadmitted : c.Admitted callee.arity?) (hargs : Term.instantiateArgs (m.env act) act.base c.args = .ok args)
    (hu : m.alternatives? e act ⟨c.functor, args⟩ callee = some untried) :
    (Pending.call ⟨c.functor, args⟩ k false untried).Fits e.library := by
  have hclauses : ∀ owner index, (Pending.call ⟨c.functor, args⟩ k false (Machine.clausesOf e owner index)).Fits
      e.library := by
    intro owner index cl hcl
    unfold Library.predicate? at hcl
    cases hm : e.library.module? owner with
    | none =>
      rw [hm] at hcl
      cases hcl
    | some md =>
      cases hp : md.predicates[index]? with
      | none =>
        rw [hm, Option.bind_some, hp] at hcl
        cases hcl
      | some p =>
        rw [hm, Option.bind_some, hp] at hcl
        exact ⟨md, rfl, p, List.mem_of_getElem? hp, hcl⟩
  cases callee with
  | builtin b => cases hu
  | own index =>
    cases hu
    exact hclauses _ index
  | foreign owner index =>
    cases hu
    exact hclauses owner index
  | facts name =>
    cases hu
    trivial
  | external p =>
    cases hu
    intro least most h
    have hlength : (m.bindings.resolveCall ⟨c.functor, args⟩).arity = c.arity :=
      (List.length_map ..).trans (Term.length_instantiateArgs hargs)
    rw [hlength]
    exact hadmitted least most h

/-- **Running a goal keeps the guards.** -/
theorem Guarding.executes (hb₀ : b₀.Sound) (hl : ∀ md ∈ e.library.modules, md.Lawful e.library) (hk : Kept b₀ m)
    (h : Guarding e.library m.bindings m.choices.items) {g : Goal Callee} {rest : List (Goal Callee)}
    {fs : List Frame} (hf : Guards e.library m.bindings.Untouched (.body act (g :: rest) :: fs))
    (hx : m.Executes e act (Machine.afterGoal act rest fs) g o m') : GuardedBy e.library o m' := by
  have hsound := hk.sound hb₀
  have ha := hf.after
  have hsame := ha.imp fun _ hx => hx.1
  obtain ⟨⟨md, mentioned, hm, hrest, hv⟩, -⟩ := List.forall_mem_cons.1 hf.each
  cases hx with
  | fault g cause _ => exact ⟨h, fun _ hc => nomatch hc⟩
  | cut => exact ⟨fun c hc => h c (List.mem_of_mem_drop hc), guarded_proceed true hsame⟩
  | @unify a b s t hs ht =>
    have hs := mentions_instantiate hs
    have ht := mentions_instantiate ht
    refine .bind h hk (Bindings.extends_unify hsound s t) ha (fun x hb hx => ?_) _ rfl rfl
    exact Bindings.confined_unify hb.unmentioned
      (inside_of_spares hx (fun _ hv => List.mem_append_left _ hv) hs)
      (inside_of_spares hx (fun _ hv => List.mem_append_right _ hv) ht)
  | @is a t x v ht =>
    have ht := mentions_instantiate ht
    refine .bind h hk (Bindings.extends_unify hsound t _) ha (fun x hb hx => ?_) _ rfl rfl
    exact Bindings.confined_unify hb.unmentioned (inside_of_spares hx (fun _ hv => hv) ht) (List.forall_mem_nil _)
  | test x success => exact ⟨h, guarded_proceed success hsame⟩
  | not g =>
    refine .more (h.push rfl ?_) ?_
    · exact ⟨hsame.imp fun _ hx => ⟨hx, trivial⟩, trivial⟩
    · refine Guards.cons ⟨md, mentioned, hm, hrest.inside, List.forall_mem_singleton.2 ?_⟩
        (List.forall_mem_singleton.2 trivial) ⟨List.forall_mem_singleton.2 trivial, List.pairwise_singleton _ _⟩
      exact hv (.not g) List.mem_cons_self
  | check b c success => exact ⟨h, guarded_proceed success hsame⟩
  | assert b c hs => exact ⟨h, guarded_proceed true hsame⟩
  | @retract b c args pattern fact facts hargs hp hr =>
    obtain ⟨hfact, -⟩ := hk.facts.retract hr
    refine .bind h hk (Bindings.extends_unifyCall hsound pattern fact) ha (fun x hb hx => ?_) _ rfl rfl
    have hgoal : (⟨c.functor, args⟩ : Call).Inside (· ≠ x) :=
      inside_of_spares hx (fun _ hv => hv) (Term.mentionsOf_instantiateArgs hargs)
    refine Bindings.confined_unifyCall hb.unmentioned (inside_factOf hb hgoal hp) fun v hv => ?_
    rw [Call.mentions_eq_nil hfact] at hv
    cases hv
  | log b c message => exact ⟨h, guarded_proceed true hsame⟩
  | @offer callee c args untried hargs hu =>
    obtain ⟨⟨contract, arity, hresolve, hlawful⟩, -⟩ := hrest.lawful (hl md (List.mem_of_getElem? hm))
    have hadmitted : c.Admitted callee.arity? := Scope.arity_of_resolve? hresolve ▸ hlawful.admitted
    refine .more (h.push rfl ⟨?_, fits_alternatives hadmitted hargs hu⟩) trivial
    refine Guards.cons trivial (fun _ _ => trivial) (ha.imp fun x hx => ⟨hx.1, ?_⟩)
    exact inside_of_spares hx.2 (fun _ hv => hv) (Term.mentionsOf_instantiateArgs hargs)

/-! ## Going back -/

theorem untouched_headed {x : Nat} (hx : b.Untouched x) {goal : Call} (hg : goal.Inside (· ≠ x))
    {cl : Clause Callee} (hh : ∀ u ∈ cl.head.mentions, u.2 + b.size ≠ x) : (headed b goal cl).1.Untouched x := by
  refine (hx.allocate cl.vars.size).confined (Bindings.confined_unifyCall (hx.allocate _).unmentioned hg ?_)
  intro v hv
  rw [Call.mentions_offset] at hv
  obtain ⟨u, hu, rfl⟩ := List.mem_map.1 hv
  exact hh u hu

theorem untouched_fact {x : Nat} (hx : b.Untouched x) {goal fact : Call} (hg : goal.Inside (· ≠ x))
    (hf : fact.isGround = true) : (b.unifyCall goal fact).1.Untouched x := by
  refine hx.confined (Bindings.confined_unifyCall hx.unmentioned hg fun v hv => ?_)
  rw [Call.mentions_eq_nil hf] at hv
  cases hv

/-- **A copy of a rule is guarded**: variables that the head does not mention have slots that nothing refers to. -/
theorem guards_headed (hs : b.Scoped) {goal : Call} (hg : goal.span ≤ b.size) {cl : Clause Callee} {owner : Nat}
    {act : Activation} (hact : act.owner = owner ∧ act.base = b.size)
    (hcl : ∃ md, l.module? owner = some md ∧ ∃ p ∈ md.predicates, cl ∈ p.clauses)
    (hafter : ∀ f ∈ after, f.Below b.size)
    (ha : Guards l (fun x => b.Untouched x ∧ goal.Inside (· ≠ x)) after) :
    Guards l (headed b goal cl).1.Untouched (.body act cl.body :: after) := by
  obtain ⟨md, hm, p, hp, hclause⟩ := hcl
  obtain ⟨rfl, hbase⟩ := hact
  refine Guards.cons ⟨md, cl.head.mentions, hm, .rule hp hclause, fun g _ v _ hu => ?_⟩ (fun f hf => ?_) ?_
  · refine untouched_headed (hs.untouched (hbase ▸ Nat.le_add_left _ _)) (fun u hu => ?_) fun u hu' hx => ?_
    · have hlt := Call.span_le_iff.1 hg u hu
      omega
    · exact hu u hu' (by omega)
  · have hbelow : f.Below act.base := hbase ▸ hafter f hf
    exact hbelow
  · refine (ha.below hafter).imp fun x hx => untouched_headed hx.1.1 hx.1.2 fun u _ hux => ?_
    have hlt := hx.2
    omega

theorem Guarding.keep (h : Guarding l m.bindings m.choices.items) (hk : Kept b₀ m) (he : Extends m.bindings b)
    (hm : m'.choices = m.choices) {c : Choice} (hc : c.checkpoint = m.bindings.checkpoint) {goal : Call} {k : Nat}
    {untried : Untried}
    (ha : Guards l (fun x => m.bindings.Untouched x ∧ goal.Inside (· ≠ x)) c.after)
    (hfits : (Pending.call goal k true untried).Fits l) (left : Bool) :
    Guarding l ((m'.withBindings b).keep c goal k left untried).bindings
      ((m'.withBindings b).keep c goal k left untried).choices.items := by
  have hold : Guarding l b m'.choices.items := by
    rw [hm]
    exact h.extend hk.descends he
  cases left with
  | false => exact hold
  | true =>
    refine List.forall_mem_cons.2 ⟨?_, hold⟩
    have hb : b.rewind c.checkpoint = m.bindings := by rw [hc, he.rewind_eq]
    rw [← hb] at ha
    exact ⟨ha, hfits⟩

/-- **Going back to a choice keeps the guards.**  The choice has been taken off, and the bindings are those it goes
back to. -/
theorem Guarding.resumes (hb₀ : b₀.Sound) (hk : Kept b₀ m) (h : Guarding l m.bindings m.choices.items) {c : Choice}
    (hc : c.checkpoint = m.bindings.checkpoint) (hi : c.InScope) (hg : c.Guarded l m.bindings)
    (hr : m.Resumes c o m') : GuardedBy l o m' := by
  have hsound := hk.sound hb₀
  have hslots : c.checkpoint.slots = m.bindings.size := by rw [hc]; rfl
  have hpend := hi.pending
  obtain ⟨ha, hfits⟩ := hg
  have hretry : ∀ {k : Nat} {tried : Bool} {f : Context.Tree → Context.Tree},
      Guarding l (((m.retry k tried).withBindings m.bindings).onTree f).bindings
        (((m.retry k tried).withBindings m.bindings).onTree f).choices.items := by
    intro k tried f
    have hch : (((m.retry k tried).withBindings m.bindings).onTree f).choices = m.choices :=
      Machine.choices_retry m k tried
    rw [hch]
    exact h
  cases hr with
  | negation hp => exact .more h (ha.imp fun _ hx => hx.1)
  | @noClause goal k owner tried clauses b hp hf =>
    rw [eq_of_firstClause_none hsound hf]
    exact .more hretry trivial
  | @clause goal k owner base tried clauses rest cl b hp hf =>
    rw [hp, hslots] at hpend
    rw [hp] at ha hfits
    obtain ⟨skipped, rfl, rfl, rfl⟩ := exists_of_firstClause_some hsound hf
    have hrest : (Pending.call goal k true (.clauses owner rest)).Fits l :=
      fun d hd => hfits d (List.mem_append_right _ (List.mem_cons_of_mem _ hd))
    refine .more (h.keep hk (extends_headed hsound goal cl) (Machine.choices_retry m k tried) hc ha hrest _) ?_
    unfold Control.Guarded
    rw [bindings_keep]
    refine guards_headed hk.slots hpend.1 ⟨rfl, rfl⟩ (hfits cl (List.mem_append_right _ List.mem_cons_self))
      (fun f hf => ?_) ha
    rw [← hslots]
    exact hi.after f hf
  | @noFact goal k tried facts b hp hf =>
    rw [eq_of_firstFact_none hsound hf]
    exact .more hretry trivial
  | @fact goal k tried facts rest b hp hf =>
    rw [hp, hslots] at hpend
    rw [hp] at ha
    obtain ⟨skipped, fact, rfl, rfl⟩ := exists_of_firstFact_some hsound hf
    have hfact := hpend.2 fact (List.mem_append_right _ List.mem_cons_self)
    have hrest : (Pending.call goal k true (.facts rest)).Fits l := trivial
    have hext := Bindings.extends_unifyCall hsound goal fact
    refine .more (h.keep hk hext (Machine.choices_retry m k tried) hc ha hrest _) ?_
    unfold Control.Guarded
    rw [bindings_keep]
    exact ha.imp fun x hx => untouched_fact hx.1 hx.2 hfact
  | @answers goal args k asked tried p hp =>
    rw [hp] at ha hfits
    refine .more ?_ ?_
    · rw [Machine.bindings_retry, Machine.choices_retry]
      exact h
    · have hb : (m.retry k tried).bindings.rewind c.checkpoint = m.bindings := by
        rw [Machine.bindings_retry, hc, Bindings.rewind_checkpoint]
      have hchoice : (⟨c.checkpoint, c.after, goal, k, p, args, asked⟩ : Inquiry).choice.Guarded l m.bindings :=
        ⟨ha, hfits⟩
      rw [← hb] at hchoice
      exact hchoice

/-! ## Every transition -/

theorem untouched_answer {x : Nat} (hx : b.Untouched x) {goal : Call} (hg : goal.Inside (· ≠ x)) {a : Answer}
    (ha : ∀ y ∈ a, y.2.isGround = true) : (b.unifyAll (answerEquations goal a)).1.Untouched x := by
  refine hx.confined (Bindings.confined_unifyAll hx.unmentioned fun eq heq => ?_)
  obtain ⟨⟨key, t⟩, hy, heq⟩ := List.mem_filterMap.1 heq
  obtain ⟨u, hu, rfl⟩ := Option.map_eq_some_iff.1 heq
  refine ⟨hg.get? hu, fun v hv => ?_⟩
  rw [Term.mentions_eq_nil (ha _ hy)] at hv
  cases hv

/-- **An answer keeps the guards** of the inquiry, whether it fits or not. -/
theorem guarded_matched (hb₀ : b₀.Sound) {i : Inquiry} (hd : Descends b₀ m.bindings (i.choice :: m.choices.items))
    (h : Guarding l m.bindings m.choices.items) (hg : i.choice.Guarded l (m.bindings.rewind i.checkpoint))
    {a : Answer} (ha : ∀ y ∈ a, y.2.isGround = true) :
    Guarding l (m.matched i a).1 m.choices.items ∧ Guards l (m.matched i a).1.Untouched i.after ∧
      ({ i with asked := i.asked + 1 } : Inquiry).choice.Guarded l ((m.matched i a).1.rewind i.checkpoint) := by
  obtain ⟨b, hcp, he, hs, hi, hrest⟩ := hd
  have hcp : i.checkpoint = b.checkpoint := hcp
  have hb : m.bindings.rewind i.checkpoint = b := by rw [hcp, he.rewind_eq]
  have hext := Bindings.extends_unifyAll (Extends.trans hb₀ hrest.extends) (answerEquations i.goal a)
  rw [hb] at hg
  have hm : (m.matched i a).1 = (b.unifyAll (answerEquations i.goal a)).1 := by
    unfold Machine.matched
    rw [hb]
  rw [hm]
  refine ⟨(h.restrict hrest he).extend hrest hext, hg.after.imp fun x hx => untouched_answer hx.1 hx.2 ha, ?_⟩
  rw [hcp, hext.rewind_eq]
  exact ⟨hg.after, hg.fits⟩

/-- **Every transition keeps the guards.** -/
theorem Guarding.moves (hb₀ : b₀.Sound) (hl : ∀ md ∈ e.library.modules, md.Lawful e.library) (hh : Grounds e.host)
    (hk : Kept b₀ m) {c : Control} (ht : c.Tidy b₀ m) (h : Guarding e.library m.bindings m.choices.items)
    (hg : c.Guarded e.library m.bindings) (hm : m.Moves e c o m') : GuardedBy e.library o m' := by
  have hticked : Kept b₀ m.ticked := ⟨hk.slots, hk.descends, hk.facts⟩
  cases hm with
  | solved => exact ⟨h, fun _ hc => nomatch hc⟩
  | stopped _ => exact ⟨h, fun _ hc => nomatch hc⟩
  | exit _ =>
    refine .more ?_ ?_
    · exact h
    · exact hg.tail
  | negated _ =>
    refine .more (fun c hc => ?_) trivial
    exact h c (List.mem_of_mem_drop hc)
  | bodyEnd _ =>
    refine .more ?_ ?_
    · exact h
    · exact hg.tail
  | @goal act g rest fs o m' _ hx =>
    have hb : (m.ticked.record e.options g).bindings = m.bindings := bindings_record m.ticked _ g
    have hcs : (m.ticked.record e.options g).choices = m.choices := Machine.choices_record m.ticked _ g
    refine Guarding.executes hb₀ hl (hticked.record e.options g) ?_ ?_ hx
    · rw [hb, hcs]
      exact h
    · rw [hb]
      exact hg
  | exhausted _ => exact ⟨h, fun _ hc => nomatch hc⟩
  | @back c cs o m' hp hr =>
    have hd := hk.descends
    have hall := h
    rw [items_of_pop hp] at hd hall
    obtain ⟨hchoice, holder⟩ := List.forall_mem_cons.1 hall
    obtain ⟨b, hcp, he, hs, hi, hrest⟩ := hd
    have hb : m.bindings.rewind c.checkpoint = b := by rw [hcp, he.rewind_eq]
    subst hb
    have hk' : Kept b₀ (({ m with choices := cs } : Machine σ).rewind c.checkpoint) := ⟨hs, hrest, hk.facts⟩
    exact Guarding.resumes hb₀ hk' (Guarding.restrict holder hrest he) hcp hi hchoice hr
  | refused _ => exact ⟨h, fun _ hc => nomatch hc⟩
  | noAnswer _ =>
    refine .more ?_ ?_
    · exact h
    · trivial
  | @answer i a w s ha _ =>
    obtain ⟨-, hground⟩ := ground_reply hh hk.facts ha
    obtain ⟨hcs, hafter, hchoice⟩ := guarded_matched hb₀ ht.1 h hg (hground a rfl)
    refine .more ?_ hafter
    exact List.forall_mem_cons.2 ⟨hchoice, hcs⟩
  | @misfitStopped i a w s cause ha _ _ =>
    obtain ⟨-, hground⟩ := ground_reply hh hk.facts ha
    exact ⟨(guarded_matched hb₀ ht.1 h hg (hground a rfl)).1, fun _ hc => nomatch hc⟩
  | @misfit i a w s ha _ _ =>
    obtain ⟨-, hground⟩ := ground_reply hh hk.facts ha
    obtain ⟨hcs, -, hchoice⟩ := guarded_matched hb₀ ht.1 h hg (hground a rfl)
    exact .more hcs hchoice

end Remedy.Query
