import Remedy.Proofs.Facts
import Remedy.Proofs.Query.Scope
/-!
# Proofs.Query.Tidy — every transition keeps its slots in order

What a search keeps is that its bindings are in scope and come from those of its choices (`Kept`), and that what is
being run mentions slots that are there (`Control.Tidy`).  Running a goal keeps that (`Kept.executes`), and so do going
back (`Kept.resumes`) and every other transition (`Kept.moves`); none but going back changes the number of slots.
-/
namespace Remedy.Query

open Bindings (Extends InPlace)

variable {σ : Type} {b₀ b b' : Bindings}

/-! ## What every transition keeps -/

def Scoped (l : Library) : Prop := ∀ md ∈ l.modules, md.Scoped

theorem scoped_rules {l : Library} (hl : Scoped l) {owner index : Nat} :
    ∀ cl ∈ ((l.predicate? owner index).map (·.clauses)).getD [], cl.Scoped := by
  intro cl hcl
  unfold Library.predicate? Library.module? at hcl
  cases hm : l.modules[owner]? with
  | none =>
    rw [hm] at hcl
    cases hcl
  | some md =>
    cases hp : md.predicates[index]? with
    | none =>
      rw [hm, Option.bind_some, hp] at hcl
      cases hcl
    | some p =>
      rw [hm, Option.bind_some, hp] at hcl
      exact hl md (List.mem_of_getElem? hm) p (List.mem_of_getElem? hp) cl hcl

/-- **The application answers with ground terms**, and leaves only ground facts. -/
def Grounds (h : Host σ) : Prop := ∀ w s p args n, s.facts.Ground →
  (h.ask w s p args n).session.facts.Ground ∧
    ∀ a, (h.ask w s p args n).result = .ok (some a) → ∀ x ∈ a, x.2.isGround = true

/-- The bindings are in scope and come from those of the choices. -/
structure Kept (b₀ : Bindings) (m : Machine σ) : Prop where
  slots : m.bindings.Scoped
  descends : Descends b₀ m.bindings m.choices.items
  facts : m.session.facts.Ground

/-- What is being run mentions slots that are there; an inquiry's choice stands as if it were still on the stack. -/
def Control.Tidy (b₀ : Bindings) (m : Machine σ) : Control → Prop
  | .run frames => ∀ f ∈ frames, f.Below m.bindings.size
  | .backtrack => True
  | .ask i => Descends b₀ m.bindings (i.choice :: m.choices.items) ∧ i.checkpoint.slots = m.bindings.size

structure KeptBy (b₀ : Bindings) (m : Machine σ) (o : Outcome) (m' : Machine σ) : Prop where
  kept : Kept b₀ m'
  size_eq : m'.bindings.size = m.bindings.size
  tidy : ∀ c, o = .more c → c.Tidy b₀ m'

variable {e : Engine σ} {m m' : Machine σ} {o : Outcome} {act : Activation} {after : List Frame}

theorem Kept.sound (h : Kept b₀ m) (hb₀ : b₀.Sound) : m.bindings.Sound := Extends.trans hb₀ h.descends.extends

theorem tidy_proceed (success : Bool) (ha : ∀ f ∈ after, f.Below m.bindings.size) :
    ∀ c, Outcome.proceed success after = .more c → c.Tidy b₀ m := by
  intro c hc
  cases hc
  cases success with
  | true => exact ha
  | false => trivial

theorem Control.Tidy.congr {c : Control} (h : c.Tidy b₀ m) (hb : m'.bindings = m.bindings)
    (hc : m'.choices = m.choices) : c.Tidy b₀ m' := by
  cases c with
  | run frames =>
    unfold Control.Tidy
    rw [hb]
    exact h
  | backtrack => trivial
  | ask i =>
    unfold Control.Tidy
    rw [hb, hc]
    exact h

theorem Kept.withBindings (h : Kept b₀ m) (he : Extends m.bindings b) (hp : InPlace m.bindings b) (success : Bool)
    (ha : ∀ f ∈ after, f.Below m.bindings.size) : KeptBy b₀ m (.proceed success after) (m.withBindings b) := by
  refine ⟨⟨hp.keeps, h.descends.extend he, h.facts⟩, hp.size_eq, tidy_proceed success ?_⟩
  have hs : (m.withBindings b).bindings.size = m.bindings.size := hp.size_eq
  rw [hs]
  exact ha

theorem Kept.cut (h : Kept b₀ m) (height : Nat) (kept : Option Nat) : Kept b₀ (m.cut height kept) :=
  ⟨h.slots, h.descends.drop _, h.facts⟩

theorem Kept.push (h : Kept b₀ m) {c : Choice} (hc : c.checkpoint = m.bindings.checkpoint) (hi : c.InScope) :
    Kept b₀ (m.push c) := ⟨h.slots, h.descends.push h.slots hc hi, h.facts⟩

theorem span_instantiate {a t : Term} {n : Nat} (h : m.instantiate act a = .ok t) (ha : a.span + act.base ≤ n) :
    t.span ≤ n := by
  unfold Machine.instantiate at h
  split at h
  · rename_i u hu
    cases h
    exact Nat.le_trans (Term.span_instantiate_le hu) ha
  · cases h

theorem span_factOf (h : Kept b₀ m) {goal fact : Call} (hg : goal.span ≤ m.bindings.size)
    (hf : m.factOf goal = .ok fact) : fact.span ≤ m.bindings.size := by
  unfold Machine.factOf at hf
  split at hf
  · rename_i fact' hfact
    cases hf
    obtain ⟨t, ht, hfact⟩ := Option.bind_eq_some_iff.1 hfact
    obtain ⟨a, ha, rfl⟩ := Option.map_eq_some_iff.1 ht
    have hspan := h.slots.span_resolve (Nat.le_trans (Call.span_of_head? ha) hg)
    exact Nat.le_trans (Term.span_of_asFact? hfact) hspan
  · cases hf

theorem below_alternatives (hl : Scoped e.library) (h : Kept b₀ m) {goal : Call} (hg : goal.span ≤ m.bindings.size)
    {callee : Callee} {untried : Untried} (hu : m.alternatives? e act goal callee = some untried) :
    untried.Below m.bindings.size := by
  cases callee with
  | builtin b => cases hu
  | own index =>
    cases hu
    exact scoped_rules hl
  | foreign owner index =>
    cases hu
    exact scoped_rules hl
  | facts name =>
    cases hu
    exact h.facts.under name
  | external p =>
    cases hu
    exact h.slots.span_resolveCall hg

/-- **Running a goal keeps all**, in as many slots as before. -/
theorem Kept.executes (hb₀ : b₀.Sound) (hl : Scoped e.library) (h : Kept b₀ m)
    (hact : act.base + act.scope.size ≤ m.bindings.size) {g : Goal Callee} (hg : g.span + act.base ≤ m.bindings.size)
    (ha : ∀ f ∈ after, f.Below m.bindings.size) (hx : m.Executes e act after g o m') : KeptBy b₀ m o m' := by
  have hsound := h.sound hb₀
  cases hx with
  | fault g cause _ => exact ⟨h, rfl, fun _ hc => nomatch hc⟩
  | cut => exact ⟨h.cut _ _, rfl, tidy_proceed true ha⟩
  | @unify a b s t hs ht =>
    rw [Goal.span] at hg
    have hs := span_instantiate hs (n := m.bindings.size) (by omega)
    have ht := span_instantiate ht (n := m.bindings.size) (by omega)
    exact h.withBindings (Bindings.extends_unify hsound s t) (Bindings.inPlace_unify h.slots hs ht) _ ha
  | @is a t x v ht =>
    have ht := span_instantiate ht hg
    exact h.withBindings (Bindings.extends_unify hsound t _)
      (Bindings.inPlace_unify h.slots ht (Nat.zero_le _)) _ ha
  | test x success => exact ⟨h, rfl, tidy_proceed success ha⟩
  | not g =>
    refine ⟨h.push rfl ⟨ha, trivial⟩, rfl, fun c hc => ?_⟩
    cases hc
    refine List.forall_mem_cons.2 ⟨⟨hact, ?_⟩, List.forall_mem_singleton.2 trivial⟩
    exact List.forall_mem_singleton.2 hg
  | check b c success => exact ⟨h, rfl, tidy_proceed success ha⟩
  | assert b c hs =>
    exact ⟨⟨h.slots, h.descends, Session.ground_assert h.facts hs⟩, rfl, tidy_proceed true ha⟩
  | @retract b c args pattern fact facts hargs hp hr =>
    obtain ⟨hfact, hfacts⟩ := h.facts.retract hr
    have hspan : (⟨c.functor, args⟩ : Call).span ≤ m.bindings.size :=
      Nat.le_trans (Term.spanOf_instantiateArgs_le hargs) hg
    have hpattern : pattern.span ≤ m.bindings.size := span_factOf h hspan hp
    have hk := h.withBindings (Bindings.extends_unifyCall hsound pattern fact)
      (Bindings.inPlace_unifyCall h.slots hpattern (by rw [Call.span_eq_zero hfact]; exact Nat.zero_le _))
      (m.bindings.unifyCall pattern fact).2 ha
    exact ⟨⟨hk.kept.slots, hk.kept.descends, hfacts⟩, hk.size_eq, hk.tidy⟩
  | log b c message => exact ⟨⟨h.slots, h.descends, h.facts⟩, rfl, tidy_proceed true ha⟩
  | @offer callee c args untried hargs hu =>
    have hspan : (⟨c.functor, args⟩ : Call).span ≤ m.bindings.size :=
      Nat.le_trans (Term.spanOf_instantiateArgs_le hargs) hg
    have hk : Kept b₀ (m.child act.context).2 := ⟨h.slots, h.descends, h.facts⟩
    refine ⟨hk.push rfl ⟨List.forall_mem_cons.2 ⟨trivial, ha⟩, hspan, below_alternatives hl h hspan hu⟩, rfl, ?_⟩
    intro c hc
    cases hc
    trivial

theorem Frame.Below.mono {n k : Nat} (hn : n ≤ k) : ∀ {f : Frame}, f.Below n → f.Below k
  | .body _ _, ⟨hact, hg⟩ => ⟨Nat.le_trans hact hn, fun g hm => Nat.le_trans (hg g hm) hn⟩
  | .exit _, _ => trivial
  | .negated _, _ => trivial

theorem Kept.onTree (h : Kept b₀ m) (f : Context.Tree → Context.Tree) : Kept b₀ (m.onTree f) :=
  ⟨h.slots, h.descends, h.facts⟩

theorem Kept.retry (h : Kept b₀ m) (k : Nat) (tried : Bool) : Kept b₀ (m.retry k tried) := by
  unfold Machine.retry
  split
  · exact h.onTree _
  · exact h

theorem Kept.become (h : Kept b₀ m) (hm : m.bindings = b) (he : Extends b b') (hb : b'.Scoped) :
    Kept b₀ (m.withBindings b') := by
  subst hm
  exact ⟨hb, h.descends.extend he, h.facts⟩

theorem Kept.keep (h : Kept b₀ m) (hm : m.bindings = b) (he : Extends b b') (hb : b'.Scoped) {c : Choice}
    (hc : c.checkpoint = b.checkpoint) (hafter : ∀ f ∈ c.after, f.Below c.checkpoint.slots) {goal : Call} {k : Nat}
    {untried : Untried} (hp : (Pending.call goal k true untried).Below c.checkpoint.slots) (left : Bool) :
    Kept b₀ ((m.withBindings b').keep c goal k left untried) := by
  subst hm
  unfold Machine.keep
  cases left with
  | true => exact ⟨hb, ⟨m.bindings, hc, he, h.slots, ⟨hafter, hp⟩, h.descends⟩, h.facts⟩
  | false => exact h.become rfl he hb

theorem bindings_keep (m : Machine σ) (c : Choice) (goal : Call) (k : Nat) (left : Bool) (untried : Untried) :
    (m.keep c goal k left untried).bindings = m.bindings := by
  unfold Machine.keep
  split <;> rfl

/-- A copy of a rule that fits is in scope, in as many new slots as the rule has variables. -/
theorem inPlace_headed (hs : b.Scoped) {goal : Call} (hg : goal.span ≤ b.size) {cl : Clause Callee} (hc : cl.Scoped) :
    InPlace (b.allocate cl.vars.size).2 (headed b goal cl).1 := by
  have hsize : (b.allocate cl.vars.size).2.size = b.size + cl.vars.size := Bindings.size_allocate b _
  refine Bindings.inPlace_unifyCall (hs.allocate _) (by omega) ?_
  rw [hsize, Nat.add_comm]
  exact Call.span_offset_le hc.head_le

theorem size_headed (hs : b.Scoped) {goal : Call} (hg : goal.span ≤ b.size) {cl : Clause Callee} (hc : cl.Scoped) :
    (headed b goal cl).1.size = b.size + cl.vars.size := by
  rw [(inPlace_headed hs hg hc).size_eq, Bindings.size_allocate]

theorem inPlace_fact (hs : b.Scoped) {goal fact : Call} (hg : goal.span ≤ b.size) (hf : fact.isGround = true) :
    InPlace b (b.unifyCall goal fact).1 :=
  Bindings.inPlace_unifyCall hs hg (by rw [Call.span_eq_zero hf]; exact Nat.zero_le _)

/-- **Going back to a choice keeps all.**  The choice has been taken off, and the bindings are those it goes back to. -/
theorem Kept.resumes (hb₀ : b₀.Sound) (h : Kept b₀ m) {c : Choice} (hc : c.checkpoint = m.bindings.checkpoint)
    (hi : c.InScope) (hr : m.Resumes c o m') : Kept b₀ m' ∧ ∀ c', o = .more c' → c'.Tidy b₀ m' := by
  have hsound := h.sound hb₀
  -- the bindings are those of the choice's moment again, so what it mentions is there
  have hslots : c.checkpoint.slots = m.bindings.size := by rw [hc]; rfl
  have hafter : ∀ {n : Nat}, m.bindings.size ≤ n → ∀ f ∈ c.after, f.Below n := by
    intro n hn f hf
    exact (hi.after f hf).mono (hslots ▸ hn)
  have hpend := hi.pending
  cases hr with
  | negation hp =>
    refine ⟨h, fun c' hc' => ?_⟩
    cases hc'
    exact hafter (Nat.le_refl _)
  | @noClause goal k owner tried clauses b hp hf =>
    rw [eq_of_firstClause_none hsound hf]
    refine ⟨((h.retry k tried).become (Machine.bindings_retry m k tried) .refl h.slots).onTree _, fun c' hc' => ?_⟩
    cases hc'
    trivial
  | @clause goal k owner base tried clauses rest cl b hp hf =>
    rw [hp, hslots] at hpend
    obtain ⟨hg, hcl⟩ := hpend
    obtain ⟨skipped, rfl, rfl, rfl⟩ := exists_of_firstClause_some hsound hf
    have hcl' : cl.Scoped := hcl cl (List.mem_append_right _ List.mem_cons_self)
    have hrest : ∀ d ∈ rest, d.Scoped :=
      fun d hd => hcl d (List.mem_append_right _ (List.mem_cons_of_mem _ hd))
    have hplace := inPlace_headed h.slots hg hcl'
    have hsize := size_headed h.slots hg hcl'
    have hleft : (Pending.call goal k true (.clauses owner rest)).Below c.checkpoint.slots := ⟨hslots ▸ hg, hrest⟩
    refine ⟨(h.retry k tried).keep (Machine.bindings_retry m k tried) (extends_headed hsound goal cl) hplace.keeps
      hc hi.after hleft _, fun c' hc' => ?_⟩
    cases hc'
    have hbound : ∀ f ∈ Frame.body ⟨owner, cl.vars, m.bindings.size, m.choices.height, k⟩ cl.body :: c.after,
        f.Below (m.bindings.size + cl.vars.size) := by
      refine List.forall_mem_cons.2 ⟨⟨Nat.le_refl _, fun g hgm => ?_⟩, hafter (Nat.le_add_right _ _)⟩
      rw [Nat.add_comm]
      exact Nat.add_le_add_left (hcl'.body_le g hgm) _
    rw [← hsize] at hbound
    unfold Control.Tidy
    rw [bindings_keep]
    exact hbound
  | @noFact goal k tried facts b hp hf =>
    rw [eq_of_firstFact_none hsound hf]
    refine ⟨((h.retry k tried).become (Machine.bindings_retry m k tried) .refl h.slots).onTree _, fun c' hc' => ?_⟩
    cases hc'
    trivial
  | @fact goal k tried facts rest b hp hf =>
    rw [hp, hslots] at hpend
    obtain ⟨hg, hfs⟩ := hpend
    obtain ⟨skipped, fact, rfl, rfl⟩ := exists_of_firstFact_some hsound hf
    have hplace := inPlace_fact h.slots hg (hfs fact (List.mem_append_right _ List.mem_cons_self))
    have hrest : ∀ d ∈ rest, d.isGround = true :=
      fun d hd => hfs d (List.mem_append_right _ (List.mem_cons_of_mem _ hd))
    have hleft : (Pending.call goal k true (.facts rest)).Below c.checkpoint.slots := ⟨hslots ▸ hg, hrest⟩
    refine ⟨(h.retry k tried).keep (Machine.bindings_retry m k tried) (Bindings.extends_unifyCall hsound goal fact)
      hplace.keeps hc hi.after hleft _, fun c' hc' => ?_⟩
    cases hc'
    refine hafter ?_
    rw [bindings_keep]
    exact Nat.le_of_eq hplace.size_eq.symm
  | @answers goal args k asked tried p hp =>
    have hk := h.retry k tried
    refine ⟨hk, fun c' hc' => ?_⟩
    cases hc'
    rw [hp] at hpend
    rw [← Machine.bindings_retry m k tried] at hc hslots
    exact ⟨⟨_, hc, .refl, hk.slots, ⟨hi.after, hpend⟩, hk.descends⟩, hslots⟩

theorem result_of_seen {r : Reply σ} {k : Nat} {limit : Option Nat} {name : String} {a : Option Answer}
    (h : r.seen k limit name = .ok a) : r.result = .ok a := by
  unfold Reply.seen at h
  split at h
  · exact h
  · split at h
    · cases h
    · split at h
      · exact h
      · split at h <;> cases h

theorem ground_reply (hh : Grounds e.host) (hf : m.session.facts.Ground) {i : Inquiry} {w : σ} {s : Session}
    {r : Except QueryError (Option Answer)} (h : m.reply e i = (r, w, s)) :
    s.facts.Ground ∧ ∀ a, r = .ok (some a) → ∀ x ∈ a, x.2.isGround = true := by
  unfold Machine.reply Host.next at h
  split at h
  · cases h
    exact ⟨hf, fun _ ha => nomatch ha⟩
  · split at h
    · cases h
      exact ⟨hf, fun _ ha => nomatch ha⟩
    · cases h
      obtain ⟨h1, h2⟩ := hh m.world m.session i.predicate i.args i.asked hf
      exact ⟨h1, fun a ha => h2 a (result_of_seen ha)⟩

theorem within_answer {goal : Call} {n : Nat} (hg : goal.span ≤ n) {a : Answer} (ha : ∀ x ∈ a, x.2.isGround = true) :
    ∀ e ∈ answerEquations goal a, e.Within n := by
  intro e he
  obtain ⟨⟨key, t⟩, hx, he⟩ := List.mem_filterMap.1 he
  obtain ⟨u, hu, rfl⟩ := Option.map_eq_some_iff.1 he
  refine ⟨Nat.le_trans (Call.span_of_get? hu) hg, ?_⟩
  rw [Term.span_eq_zero (ha _ hx)]
  exact Nat.zero_le _

theorem descends_matched (hb₀ : b₀.Sound) {i : Inquiry} {cs : List Choice}
    (hd : Descends b₀ m.bindings (i.choice :: cs)) {a : Answer} (ha : ∀ x ∈ a, x.2.isGround = true) :
    Descends b₀ (m.matched i a).1 (({ i with asked := i.asked + 1 } : Inquiry).choice :: cs) ∧
      (m.matched i a).1.Scoped ∧ (m.matched i a).1.size = i.checkpoint.slots := by
  obtain ⟨b, hcp, he, hs, hi, hrest⟩ := hd
  have hcp : i.checkpoint = b.checkpoint := hcp
  have hm : m.matched i a = b.unifyAll (answerEquations i.goal a) := by
    unfold Machine.matched
    rw [hcp, he.rewind_eq]
  have hslots : i.checkpoint.slots = b.size := by rw [hcp]; rfl
  have hpend : i.goal.span ≤ i.checkpoint.slots ∧ i.args.span ≤ i.checkpoint.slots := hi.pending
  have hg : i.goal.span ≤ b.size := hslots ▸ hpend.1
  have hplace := Bindings.inPlace_unifyAll hs (within_answer hg ha)
  have hext := Bindings.extends_unifyAll (Extends.trans hb₀ hrest.extends) (answerEquations i.goal a)
  rw [hm]
  exact ⟨⟨b, hcp, hext, hs, ⟨hi.after, hpend⟩, hrest⟩, hplace.keeps, by rw [hplace.size_eq, hslots]⟩

theorem Kept.record (h : Kept b₀ m) (o : Options) (g : Goal Callee) : Kept b₀ (m.record o g) := by
  unfold Machine.record
  split
  · exact ⟨h.slots, h.descends, h.facts⟩
  · exact h

theorem bindings_record (m : Machine σ) (o : Options) (g : Goal Callee) : (m.record o g).bindings = m.bindings := by
  unfold Machine.record
  split <;> rfl

/-- What is left to do after a transition is in order, and nothing but going back has changed the number of slots. -/
structure MovedTidily (b₀ : Bindings) (c : Control) (m : Machine σ) (o : Outcome) (m' : Machine σ) : Prop where
  kept : Kept b₀ m'
  tidy : ∀ c', o = .more c' → c'.Tidy b₀ m'
  size_eq : c ≠ .backtrack → m'.bindings.size = m.bindings.size

/-- **Every transition keeps all.** -/
theorem Kept.moves (hb₀ : b₀.Sound) (hl : Scoped e.library) (hh : Grounds e.host) (h : Kept b₀ m) {c : Control}
    (hc : c.Tidy b₀ m) (hm : m.Moves e c o m') : MovedTidily b₀ c m o m' := by
  have hticked : Kept b₀ m.ticked := ⟨h.slots, h.descends, h.facts⟩
  cases hm with
  | solved => exact ⟨h, (fun _ hc => nomatch hc), fun _ => rfl⟩
  | stopped ht => exact ⟨hticked, (fun _ hc => nomatch hc), fun _ => rfl⟩
  | exit ht =>
    refine ⟨hticked.onTree _, fun c' hc' => ?_, fun _ => rfl⟩
    cases hc'
    exact (List.forall_mem_cons.1 hc).2
  | negated ht =>
    refine ⟨hticked.cut _ _, fun c' hc' => ?_, fun _ => rfl⟩
    cases hc'
    trivial
  | bodyEnd ht =>
    refine ⟨hticked, fun c' hc' => ?_, fun _ => rfl⟩
    cases hc'
    exact (List.forall_mem_cons.1 hc).2
  | @goal act g rest fs o m' ht hx =>
    obtain ⟨⟨hact, hgs⟩, hfs⟩ := List.forall_mem_cons.1 hc
    obtain ⟨hg, hrest⟩ := List.forall_mem_cons.1 hgs
    have hafter : ∀ f ∈ Machine.afterGoal act rest fs, f.Below m.bindings.size := by
      unfold Machine.afterGoal
      split
      · exact hfs
      · exact List.forall_mem_cons.2 ⟨⟨hact, hrest⟩, hfs⟩
    have hb : (m.ticked.record e.options g).bindings = m.bindings := bindings_record m.ticked _ g
    rw [← hb] at hact hg hafter
    have hk := (hticked.record e.options g).executes hb₀ hl hact hg hafter hx
    exact ⟨hk.kept, hk.tidy, fun _ => by rw [hk.size_eq, hb]⟩
  | exhausted hp => exact ⟨h, (fun _ hc => nomatch hc), fun hne => absurd rfl hne⟩
  | @back c cs o m' hp hr =>
    have hd := h.descends
    rw [items_of_pop hp] at hd
    obtain ⟨b, hcp, he, hs, hi, hrest⟩ := hd
    have hb : m.bindings.rewind c.checkpoint = b := by rw [hcp, he.rewind_eq]
    subst hb
    have hk : Kept b₀ (({ m with choices := cs } : Machine σ).rewind c.checkpoint) := ⟨hs, hrest, h.facts⟩
    obtain ⟨hk', ht⟩ := hk.resumes hb₀ hcp hi hr
    exact ⟨hk', ht, fun hne => absurd rfl hne⟩
  | refused ha => exact ⟨⟨h.slots, h.descends, (ground_reply hh h.facts ha).1⟩, (fun _ hc => nomatch hc), fun _ => rfl⟩
  | @noAnswer i w s ha =>
    have hk : Kept b₀ (m.heard w s) := ⟨h.slots, h.descends, (ground_reply hh h.facts ha).1⟩
    refine ⟨hk.onTree _, fun c' hc' => ?_, fun _ => rfl⟩
    cases hc'
    trivial
  | @answer i a w s ha hu =>
    obtain ⟨hfacts, hground⟩ := ground_reply hh h.facts ha
    obtain ⟨hd, hs, hsize⟩ := descends_matched hb₀ hc.1 (hground a rfl)
    refine ⟨⟨hs, hd, hfacts⟩, fun c' hc' => ?_, fun _ => hsize.trans hc.2⟩
    cases hc'
    obtain ⟨_, _, _, _, hi, _⟩ := hc.1
    have hafter : ∀ f ∈ i.after, f.Below i.checkpoint.slots := hi.after
    rw [← hsize] at hafter
    exact hafter
  | @misfitStopped i a w s cause ha hu ht =>
    obtain ⟨hfacts, hground⟩ := ground_reply hh h.facts ha
    obtain ⟨hd, hs, hsize⟩ := descends_matched hb₀ hc.1 (hground a rfl)
    exact ⟨⟨hs, hd.tail, hfacts⟩, (fun _ hc => nomatch hc), fun _ => hsize.trans hc.2⟩
  | @misfit i a w s ha hu ht =>
    obtain ⟨hfacts, hground⟩ := ground_reply hh h.facts ha
    obtain ⟨hd, hs, hsize⟩ := descends_matched hb₀ hc.1 (hground a rfl)
    refine ⟨⟨hs, hd.tail, hfacts⟩, fun c' hc' => ?_, fun _ => hsize.trans hc.2⟩
    cases hc'
    exact ⟨hd, hsize.symm⟩

end Remedy.Query
