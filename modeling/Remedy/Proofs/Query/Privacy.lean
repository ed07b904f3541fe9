import Remedy.Proofs.Program.Names
import Remedy.Proofs.Query.Choices
/-!
# Proofs.Query.Privacy — the rules of a predicate are run where they belong

The place of a predicate means something in its own module only, and a search goes through the rules of many modules
and back again.  What keeps it straight is that every rule that is run, and every rule that is still to be tried, is
known with its module: the rule is one of a predicate of that module, and the predicate's rules were laid out by a call
made before, in a rule of the same module unless the predicate is public (`Called`).  So a call of a predicate by its
place is always one of the module whose rule contains the call, and what is private to a module is run for goals of that
module only (`names_resolved`).  Nothing is asked of the application and of others for this.
-/
namespace Remedy.Query

variable {σ : Type} {e : Engine σ} {others : σ → Session → σ → Session → Prop} {m m' : Machine σ} {c : Control}
  {o : Outcome}

/-! ## What holds of frames and of rules to be tried -/

def Frame.Has (F : Activation → List (Goal Callee) → Prop) : Frame → Prop
  | .body act goals => F act goals
  | .exit _ | .negated _ => True

/-- A property of the rules that are left to be tried for a call: its context, the goal, the module of the rules and the
rules. -/
def Pending.Has (U : Nat → Call → Nat → List (Clause Callee) → Prop) : Pending → Prop
  | .call goal k _ (.clauses owner rest) => U k goal owner rest
  | .call _ _ _ (.facts _) | .call _ _ _ (.answers _ _ _) | .negation => True

structure Choice.Has (F : Activation → List (Goal Callee) → Prop) (U : Nat → Call → Nat → List (Clause Callee) → Prop)
    (d : Choice) : Prop where
  after : ∀ f ∈ d.after, f.Has F
  pending : d.pending.Has U

/-- **The properties hold of what a search makes of what has them**: of the goals after a goal, of the goal inside a
negation, of the goals of a rule that is entered, and of the rules that are left. -/
structure Lasting (F : Activation → List (Goal Callee) → Prop) (U : Nat → Call → Nat → List (Clause Callee) → Prop) :
    Prop where
  next : ∀ {act g rest}, F act (g :: rest) → F act rest
  inside : ∀ {act : Activation} {g rest n}, F act (.not g :: rest) → F { act with barrier := n } [g]
  enter : ∀ {k goal owner cl rest base n}, U k goal owner (cl :: rest) → F ⟨owner, cl.vars, base, n, k⟩ cl.body
  left : ∀ {k goal owner rest clauses}, U k goal owner clauses → rest <:+ clauses → U k goal owner rest

structure LeavesSourced (F : Activation → List (Goal Callee) → Prop)
    (U : Nat → Call → Nat → List (Clause Callee) → Prop) (o : Outcome) (cs : List Choice) : Prop where
  choices : ∀ d ∈ cs, d.Has F U
  frames : ∀ c, o = .more c → ∀ f ∈ c.frames, f.Has F

variable {F F' : Activation → List (Goal Callee) → Prop} {U U' : Nat → Call → Nat → List (Clause Callee) → Prop}

theorem Frame.Has.imp (hF : ∀ act goals, F act goals → F' act goals) : ∀ {f : Frame}, f.Has F → f.Has F'
  | .body _ _, h => hF _ _ h
  | .exit _, _ | .negated _, _ => trivial

theorem Choice.Has.imp (hF : ∀ act goals, F act goals → F' act goals)
    (hU : ∀ k goal owner rest, U k goal owner rest → U' k goal owner rest) : ∀ {d : Choice}, d.Has F U → d.Has F' U'
  | ⟨_, _, .call _ _ _ (.clauses _ _)⟩, h => ⟨fun f hf => (h.after f hf).imp hF, hU _ _ _ _ h.pending⟩
  | ⟨_, _, .call _ _ _ (.facts _)⟩, h | ⟨_, _, .call _ _ _ (.answers _ _ _)⟩, h | ⟨_, _, .negation⟩, h =>
    ⟨fun f hf => (h.after f hf).imp hF, trivial⟩

theorem LeavesSourced.more {cs : List Choice} (hc : ∀ d ∈ cs, d.Has F U) {c : Control}
    (hf : ∀ f ∈ c.frames, f.Has F) : LeavesSourced F U (.more c) cs := by
  refine ⟨hc, fun c' ho => ?_⟩
  cases ho
  exact hf

theorem LeavesSourced.proceed {cs : List Choice} (hc : ∀ d ∈ cs, d.Has F U) {after : List Frame}
    (ha : ∀ f ∈ after, f.Has F) (success : Bool) : LeavesSourced F U (.proceed success after) cs := by
  cases success with
  | true => exact .more hc ha
  | false => exact .more hc (List.forall_mem_nil _)

theorem has_afterGoal (hl : Lasting F U) {act : Activation} {g : Goal Callee} {rest : List (Goal Callee)}
    {fs : List Frame} (h : ∀ f ∈ Frame.body act (g :: rest) :: fs, f.Has F) :
    ∀ f ∈ Machine.afterGoal act rest fs, f.Has F := by
  obtain ⟨hf, hfs⟩ := List.forall_mem_cons.1 h
  unfold Machine.afterGoal
  split
  · exact hfs
  · exact List.forall_mem_cons.2 ⟨hl.next hf, hfs⟩

theorem suffix_of_firstClause {goal : Call} {base : Nat} {cl : Clause Callee} {rest : List (Clause Callee)} :
    ∀ {clauses : List (Clause Callee)} {b b' : Bindings}, firstClause goal b clauses = (b', some (base, cl, rest)) →
      cl :: rest <:+ clauses
  | [], _, _, h => nomatch h
  | c :: clauses, b, b', h => by
    unfold firstClause at h
    simp only at h
    split at h
    · cases h
      exact List.suffix_rfl
    · exact (suffix_of_firstClause h).trans (List.suffix_cons c clauses)

/-! ## Every transition keeps it -/

/-- **Running a goal** keeps the properties, if the rules that a call lays out have theirs. -/
theorem Lasting.executes (hl : Lasting F U) {act : Activation} {g : Goal Callee} {rest : List (Goal Callee)}
    {fs : List Frame} (hf : ∀ f ∈ Frame.body act (g :: rest) :: fs, f.Has F) (hc : ∀ d ∈ m.choices.items, d.Has F U)
    (hoffer : ∀ callee call args owner clauses, g = .call callee call →
      Term.instantiateArgs (m.env act) act.base call.args = .ok args →
      m.alternatives? e act ⟨call.functor, args⟩ callee = some (.clauses owner clauses) →
      U m.forest.size ⟨call.functor, args⟩ owner clauses)
    (hx : m.Executes e act (Machine.afterGoal act rest fs) g o m') : LeavesSourced F U o m'.choices.items := by
  have hafter := has_afterGoal hl hf
  cases hx with
  | fault g cause _ => exact ⟨hc, fun _ ho => nomatch ho⟩
  | cut => exact .more (fun d hd => hc d (List.mem_of_mem_drop hd)) hafter
  | unify ha hb => exact .proceed hc hafter _
  | is ha => exact .proceed hc hafter _
  | test x success => exact .proceed hc hafter _
  | not g =>
    have hpush : ∀ d ∈ (⟨m.bindings.checkpoint, _, .negation⟩ : Choice) :: m.choices.items, d.Has F U :=
      List.forall_mem_cons.2 ⟨⟨hafter, trivial⟩, hc⟩
    refine .more hpush ?_
    exact List.forall_mem_cons.2 ⟨hl.inside (hf _ List.mem_cons_self), List.forall_mem_singleton.2 trivial⟩
  | check b call success => exact .proceed hc hafter _
  | assert b call hs => exact .proceed hc hafter _
  | retract b call hargs hp hr => exact .proceed hc hafter _
  | log b call message => exact .proceed hc hafter _
  | @offer callee call args untried hargs hu =>
    have hpending : (Pending.call ⟨call.functor, args⟩ m.forest.size false untried).Has U := by
      cases untried with
      | clauses owner clauses => exact hoffer callee call args owner clauses rfl hargs hu
      | facts _ | answers _ _ _ => trivial
    have hexit : ∀ f ∈ Frame.exit m.forest.size :: Machine.afterGoal act rest fs, f.Has F :=
      List.forall_mem_cons.2 ⟨trivial, hafter⟩
    exact .more (List.forall_mem_cons.2 ⟨⟨hexit, hpending⟩, hc⟩) (List.forall_mem_nil _)

theorem has_keep (hc : ∀ d ∈ m.choices.items, d.Has F U) {d : Choice} (hd : ∀ f ∈ d.after, f.Has F) {goal : Call}
    {k : Nat} {untried : Untried} (hu : (Pending.call goal k true untried).Has U) (tried left : Bool) (b : Bindings) :
    ∀ d' ∈ (((m.retry k tried).withBindings b).keep d goal k left untried).choices.items, d'.Has F U := by
  have hretry : ((m.retry k tried).withBindings b).choices = m.choices := Machine.choices_retry m k tried
  rw [← hretry] at hc
  unfold Machine.keep
  cases left with
  | true => exact List.forall_mem_cons.2 ⟨⟨hd, hu⟩, hc⟩
  | false => exact hc

/-- **Going back to a choice** keeps the properties. -/
theorem Lasting.resumes (hl : Lasting F U) {d : Choice} (hd : d.Has F U) (hc : ∀ d ∈ m.choices.items, d.Has F U)
    (hr : m.Resumes d o m') : LeavesSourced F U o m'.choices.items := by
  obtain ⟨hafter, hpending⟩ := hd
  have hretry : ∀ k tried, ∀ d ∈ (m.retry k tried).choices.items, d.Has F U := by
    intro k tried
    rw [Machine.choices_retry]
    exact hc
  cases hr with
  | negation hp => exact .more hc hafter
  | noClause hp hf => exact .more (hretry _ _) (List.forall_mem_nil _)
  | @clause goal k owner base tried clauses rest cl b hp hf =>
    rw [hp] at hpending
    have hleft : U k goal owner (cl :: rest) := hl.left hpending (suffix_of_firstClause hf)
    have hrest : (Pending.call goal k true (.clauses owner rest)).Has U := hl.left hleft (List.suffix_cons cl rest)
    exact .more (has_keep hc hafter hrest tried _ b) (List.forall_mem_cons.2 ⟨hl.enter hleft, hafter⟩)
  | noFact hp hf => exact .more (hretry _ _) (List.forall_mem_nil _)
  | @fact goal k tried facts rest b hp hf =>
    have hrest : (Pending.call goal k true (.facts rest)).Has U := trivial
    exact .more (has_keep hc hafter hrest tried _ b) hafter
  | answers hp => exact .more (hretry _ _) hafter

/-- **Every transition keeps the properties**, if the rules that a call lays out have theirs. -/
theorem Lasting.moves (hl : Lasting F U) (hf : ∀ f ∈ c.frames, f.Has F) (hc : ∀ d ∈ m.choices.items, d.Has F U)
    (hoffer : ∀ act callee call rest fs args owner clauses, c = .run (.body act (.call callee call :: rest) :: fs) →
      c.invoking? e m = some (act, callee, ⟨call.functor, args⟩) →
      m.alternatives? e act ⟨call.functor, args⟩ callee = some (.clauses owner clauses) →
      U m.forest.size ⟨call.functor, args⟩ owner clauses) (hm : m.Moves e c o m') : LeavesSourced F U o m'.choices.items := by
  cases hm with
  | solved => exact ⟨hc, fun _ ho => nomatch ho⟩
  | stopped ht => exact ⟨hc, fun _ ho => nomatch ho⟩
  | exit ht => exact .more hc (List.forall_mem_cons.1 hf).2
  | negated ht => exact .more (fun d hd => hc d (List.mem_of_mem_drop hd)) (List.forall_mem_nil _)
  | bodyEnd ht => exact .more hc (List.forall_mem_cons.1 hf).2
  | @goal act g rest fs o m' ht hx =>
    obtain ⟨trace, hrecord⟩ := record_eq m.ticked e.options g
    rw [hrecord] at hx
    refine hl.executes (m := m.ticked.onSession fun s => { s with trace }) hf hc
      (fun callee call args owner clauses hg hargs hu => ?_) hx
    subst hg
    refine hoffer act callee call rest fs args owner clauses rfl (invoking?_run ht hargs) ?_
    cases callee <;> exact hu
  | exhausted hp => exact ⟨hc, fun _ ho => nomatch ho⟩
  | @back d cs o m' hp hr =>
    rw [items_of_pop hp] at hc
    obtain ⟨hd, hcs⟩ := List.forall_mem_cons.1 hc
    exact hl.resumes hd hcs hr
  | refused ha => exact ⟨hc, fun _ ho => nomatch ho⟩
  | noAnswer ha => exact .more hc (List.forall_mem_nil _)
  | @answer i a w s ha hu =>
    have hi : ({ i with asked := i.asked + 1 } : Inquiry).choice.Has F U := ⟨hf, trivial⟩
    exact .more (List.forall_mem_cons.2 ⟨hi, hc⟩) hf
  | misfitStopped ha hu ht => exact ⟨hc, fun _ ho => nomatch ho⟩
  | misfit ha hu ht => exact .more hc hf

/-! ## Where rules come from -/

/-- **What is left of goals** that are run from the left: all of them, those after the first, or the one inside a
negation. -/
inductive Leaves (gs : List (Goal Callee)) : List (Goal Callee) → Prop
  | all : Leaves gs gs
  | next {g : Goal Callee} {rest : List (Goal Callee)} (h : Leaves gs (g :: rest)) : Leaves gs rest
  | inside {g : Goal Callee} {rest : List (Goal Callee)} (h : Leaves gs (.not g :: rest)) : Leaves gs [g]

/-- **A call stands among goals**, at whatever depth of negations. -/
def Stands (gs : List (Goal Callee)) (callee : Callee) (call : Call) : Prop :=
  ∃ g ∈ gs, g.call? = some (callee, call)

theorem Leaves.stands {gs : List (Goal Callee)} : ∀ {left : List (Goal Callee)}, Leaves gs left →
    ∀ {callee : Callee} {call : Call}, Stands left callee call → Stands gs callee call := by
  intro left h
  induction h with
  | all => exact fun hs => hs
  | next _ ih => exact fun ⟨g, hg, hc⟩ => ih ⟨g, List.mem_cons_of_mem _ hg, hc⟩
  | @inside g rest _ ih =>
    rintro callee call ⟨g', hg, hc⟩
    rw [List.mem_singleton.1 hg] at hc
    exact ih ⟨.not g, List.mem_cons_self, hc⟩

/-- The place of the predicate whose rules a callee stands for, in a rule of the module at `caller`. -/
inductive Places (caller : Nat) : Callee → Nat → Nat → Prop
  | own (i : Nat) : Places caller (.own i) caller i
  | foreign (owner i : Nat) : Places caller (.foreign owner i) owner i

/-- **The rules of a predicate have been laid out for a call**, in the life of a query that has begun at `a₀` and is at `a`
now: the call was made at an earlier moment, in a context of its own, and the predicate is public or belongs to the
module that made the call. -/
structure Called (e : Engine σ) (others : σ → Session → σ → Session → Prop) (a₀ a : Moment σ) (k : Nat) (goal : Call)
    (owner : Nat) (p : Predicate) : Prop where
  made : ∃ b act callee i, Comes e others a₀ b ∧ Comes e others b a ∧
    b.control.invoking? e b.machine = some (act, callee, goal) ∧ b.machine.forest.size = k ∧
    Places act.owner callee owner i ∧ e.library.predicate? owner i = some p ∧ p.name = goal.functor ∧
    (p.isPublic = true ∨ owner = act.owner)

/-- **Where the goals of a frame come from**: from the goal that the query has begun with, or from a rule of a predicate
that has been laid out for a call in the frame's context. -/
inductive Origin (e : Engine σ) (others : σ → Session → σ → Session → Prop) (owner₀ : Nat) (g₀ : Goal Callee)
    (a₀ a : Moment σ) (act : Activation) (goals : List (Goal Callee)) : Prop
  | entry (ho : act.owner = owner₀) (h : Leaves [g₀] goals)
  | rule {goal : Call} {p : Predicate} {cl : Clause Callee} (hc : Called e others a₀ a act.context goal act.owner p)
    (hcl : cl ∈ p.clauses) (h : Leaves cl.body goals)

/-- The rules that are left to be tried for a call are the last ones of a predicate that has been laid out for it. -/
def Remaining (e : Engine σ) (others : σ → Session → σ → Session → Prop) (a₀ a : Moment σ) (k : Nat) (goal : Call)
    (owner : Nat) (rest : List (Clause Callee)) : Prop :=
  ∃ p, Called e others a₀ a k goal owner p ∧ rest <:+ p.clauses

section Trace

variable {owner₀ : Nat} {g₀ : Goal Callee} {a₀ a b : Moment σ}

theorem Called.later {k : Nat} {goal : Call} {owner : Nat} {p : Predicate} (h : Called e others a₀ a k goal owner p)
    (hb : Comes e others a b) : Called e others a₀ b k goal owner p := by
  obtain ⟨b₁, act, callee, i, hbefore, hafter, hmade⟩ := h.made
  exact ⟨b₁, act, callee, i, hbefore, hafter.trans hb, hmade⟩

theorem Origin.later {act : Activation} {goals : List (Goal Callee)} (h : Origin e others owner₀ g₀ a₀ a act goals)
    (hb : Comes e others a b) : Origin e others owner₀ g₀ a₀ b act goals := by
  cases h with
  | entry ho h => exact .entry ho h
  | rule hc hcl h => exact .rule (hc.later hb) hcl h

theorem Remaining.later {k : Nat} {goal : Call} {owner : Nat} {rest : List (Clause Callee)}
    (h : Remaining e others a₀ a k goal owner rest) (hb : Comes e others a b) :
    Remaining e others a₀ b k goal owner rest := by
  obtain ⟨p, hc, hs⟩ := h
  exact ⟨p, hc.later hb, hs⟩

theorem lasting_origin (owner₀ : Nat) (g₀ : Goal Callee) (a₀ a : Moment σ) :
    Lasting (Origin e others owner₀ g₀ a₀ a) (Remaining e others a₀ a) where
  next h := by
    cases h with
    | entry ho h => exact .entry ho h.next
    | rule hc hcl h => exact .rule hc hcl h.next
  inside h := by
    cases h with
    | entry ho h => exact .entry ho h.inside
    | rule hc hcl h => exact .rule hc hcl h.inside
  enter := by
    rintro k goal owner cl rest base n ⟨p, hc, hs⟩
    exact .rule hc (hs.subset List.mem_cons_self) .all
  left := by
    rintro k goal owner rest clauses ⟨p, hc, hs⟩ hrest
    exact ⟨p, hc, hrest.trans hs⟩

/-! ## Where calls stand -/

/-- **A call that stands in a rule, or with which the query has begun**, is resolved on behalf of its module. -/
theorem Origin.resolved (hl : e.library.Built) {md₀ : RuleModule} {goal₀ : Call}
    (hmd₀ : e.library.module? owner₀ = some md₀) (hg₀ : md₀.resolveGoal e.library goal₀ = .ok g₀) {act : Activation}
    {goals : List (Goal Callee)} (h : Origin e others owner₀ g₀ a₀ a act goals) {callee : Callee} {call : Call}
    (hs : Stands goals callee call) : ∃ md, e.library.module? act.owner = some md ∧
      md.Means e.library call.functor callee ∧
        (act.owner = owner₀ ∧ g₀ = .call callee call ∨ ∃ p ∈ md.predicates, ∃ cl ∈ p.clauses, Stands cl.body callee call) := by
  cases h with
  | entry ho h =>
    obtain ⟨g, hg, hc⟩ := h.stands hs
    have hmeans := (lawful_resolveGoal hg₀).means g hg hc
    obtain ⟨callee₀, rfl⟩ := call_of_resolveGoal hg₀
    rw [List.mem_singleton.1 hg] at hc
    cases hc
    exact ⟨md₀, ho ▸ hmd₀, hmeans, .inl ⟨ho, rfl⟩⟩
  | rule hc hcl h =>
    obtain ⟨-, -, -, i, -, -, -, -, -, hp, -⟩ := hc.made
    obtain ⟨md, hmd, hi⟩ := Option.bind_eq_some_iff.1 hp
    have hpm := List.mem_of_getElem? hi
    obtain ⟨g, hg, hcall⟩ := h.stands hs
    exact ⟨md, hmd, hl.means (List.mem_of_getElem? hmd) hpm hcl hg hcall, .inr ⟨_, hpm, _, hcl, g, hg, hcall⟩⟩

/-- **A call that lays out rules** lays out those of a predicate of its name, which is public or of the caller's module. -/
theorem places_of_alternatives? {md : RuleModule} {act : Activation} (hmd : e.library.module? act.owner = some md)
    {callee : Callee} {goal : Call} (hm : md.Means e.library goal.functor callee) {owner : Nat}
    {clauses : List (Clause Callee)} (hu : m.alternatives? e act goal callee = some (.clauses owner clauses)) :
    ∃ i p, Places act.owner callee owner i ∧ e.library.predicate? owner i = some p ∧ p.name = goal.functor ∧
      (p.isPublic = true ∨ owner = act.owner) ∧ clauses = p.clauses := by
  have hclauses : ∀ {owner i : Nat} {p : Predicate}, e.library.predicate? owner i = some p →
      ((e.library.predicate? owner i).map (·.clauses)).getD [] = p.clauses := by
    intro owner i p hp
    rw [hp]
    rfl
  cases callee with
  | own i =>
    cases hu
    obtain ⟨p, hp, hname, -⟩ := hm.place.1 i rfl
    have hp : e.library.predicate? act.owner i = some p := by
      rw [Library.predicate?, hmd, Option.bind_some, hp]
    exact ⟨i, p, .own i, hp, hname, .inr rfl, hclauses hp⟩
  | foreign _ i =>
    cases hu
    obtain ⟨p, hp, hname, hpublic⟩ := hm.place.2 owner i rfl
    exact ⟨i, p, .foreign owner i, hp, hname, .inl hpublic, hclauses hp⟩
  | facts _ | external _ | builtin _ => cases hu

/-! ## The whole life of a query -/

/-- **All that is run and all that is still to be tried is known with where it comes from.** -/
structure Traced (e : Engine σ) (others : σ → Session → σ → Session → Prop) (owner₀ : Nat) (g₀ : Goal Callee)
    (a₀ a : Moment σ) : Prop where
  frames : ∀ f ∈ a.control.frames, f.Has (Origin e others owner₀ g₀ a₀ a)
  choices : ∀ d ∈ a.machine.choices.items, d.Has (Origin e others owner₀ g₀ a₀ a) (Remaining e others a₀ a)

theorem Traced.later (h : Traced e others owner₀ g₀ a₀ a) (hb : Comes e others a b) :
    (∀ f ∈ a.control.frames, f.Has (Origin e others owner₀ g₀ a₀ b)) ∧
      ∀ d ∈ a.machine.choices.items, d.Has (Origin e others owner₀ g₀ a₀ b) (Remaining e others a₀ b) :=
  ⟨fun f hf => (h.frames f hf).imp fun _ _ h => h.later hb,
    fun d hd => (h.choices d hd).imp (fun _ _ h => h.later hb) fun _ _ _ _ h => h.later hb⟩

theorem traced_finish (q : Query) (m : Machine σ) : Traced e others owner₀ g₀ a₀ (.after (q.finish m)) := by
  refine ⟨?_, ?_⟩
  · rw [control_finish]
    exact List.forall_mem_nil _
  · rw [choices_finish]
    exact List.forall_mem_nil _

/-- **What happens next leaves all traced.** -/
theorem Traced.passes (hl : e.library.Built) {md₀ : RuleModule} {goal₀ : Call}
    (hmd₀ : e.library.module? owner₀ = some md₀) (hg₀ : md₀.resolveGoal e.library goal₀ = .ok g₀)
    (ha : Comes e others a₀ a) (h : Traced e others owner₀ g₀ a₀ a) (hp : Passes e others a b) :
    Traced e others owner₀ g₀ a₀ b := by
  have hb : Comes e others a b := .step .refl hp
  obtain ⟨hframes, hchoices⟩ := h.later hb
  have hmoved : ∀ {q : Query} {c : Control} {m m' : Machine σ} {o : Outcome}, a = .search q c m →
      m.step e c = (o, m') →
        LeavesSourced (Origin e others owner₀ g₀ a₀ b) (Remaining e others a₀ b) o m'.choices.items := by
    rintro q c m m' o rfl hs
    refine (lasting_origin owner₀ g₀ a₀ b).moves hframes hchoices ?_ (Machine.moves_of_step hs)
    rintro act callee call rest fs args owner clauses rfl hi hu
    have horigin := h.frames (.body act (.call callee call :: rest)) List.mem_cons_self
    obtain ⟨md, hmd, hmeans, -⟩ := Origin.resolved hl hmd₀ hg₀ horigin ⟨_, List.mem_cons_self, rfl⟩
    obtain ⟨i, p, hplaces, hp, hname, hpublic, rfl⟩ :=
      places_of_alternatives? hmd (show md.Means _ (Call.mk call.functor args).functor callee from hmeans) hu
    exact ⟨p, ⟨_, act, callee, i, ha, hb, hi, rfl, hplaces, hp, hname, hpublic⟩, List.suffix_rfl⟩
  cases hp with
  | @begin q w s frames hq =>
    unfold Moment.control at hframes
    simp only [hq] at hframes
    exact ⟨hframes, hchoices⟩
  | again hq => exact ⟨List.forall_mem_nil _, hchoices⟩
  | move hs => exact ⟨(hmoved rfl hs).frames _ rfl, (hmoved rfl hs).choices⟩
  | solved hs => exact ⟨List.forall_mem_nil _, (hmoved rfl hs).choices⟩
  | exhausted hs => exact traced_finish _ _
  | failed hs => exact traced_finish _ _
  | @close q w s =>
    by_cases hq : q.status = .ended
    · rw [close_ended hq] at hframes hchoices ⊢
      exact ⟨hframes, hchoices⟩
    · rw [after_close hq]
      exact traced_finish _ _
  | other hw => exact ⟨hframes, hchoices⟩

theorem traced_of_comes (hl : e.library.Built) {owner : Nat} {goal : Call} {vars : VarTable} {q : Query}
    (hq : ofGoal e.library owner goal vars = .ok q) {w : σ} {s : Session} (ha : Comes e others (.rest q w s) a) :
    ∃ md₀ g₀, e.library.module? owner = some md₀ ∧ md₀.resolveGoal e.library goal = .ok g₀ ∧
      Traced e others owner g₀ (.rest q w s) a := by
  obtain ⟨md₀, g₀, hmd₀, hg₀, rfl⟩ := ofGoal_eq_ok.1 hq
  refine ⟨md₀, g₀, hmd₀, hg₀, ?_⟩
  induction ha with
  | refl => exact ⟨List.forall_mem_singleton.2 (.entry rfl .all), List.forall_mem_nil _⟩
  | step hb hp ih => exact ih.passes hl hmd₀ hg₀ hb hp

end Trace

/-! ## Names are resolved, and kept to their modules -/

/-- **The call that is made next is resolved in its module**: it stands in a rule of the module at the owner's place, or it
is the goal that the query has begun with on behalf of that module; its callee is what its name stands for there; and if
that is a predicate by its place alone, the rules laid out are those of this predicate of this very module. -/
structure Resolved (e : Engine σ) (owner₀ : Nat) (goal₀ : Call) (a : Moment σ) : Prop where
  made : ∀ act callee goal, a.control.invoking? e a.machine = some (act, callee, goal) →
    ∃ md call, e.library.module? act.owner = some md ∧ goal.functor = call.functor ∧
      md.Means e.library goal.functor callee ∧
      (act.owner = owner₀ ∧ call = goal₀ ∨ ∃ p ∈ md.predicates, ∃ cl ∈ p.clauses, Stands cl.body callee call) ∧
      ∀ i, callee = .own i → ∃ p, md.predicates[i]? = some p ∧ p.name = goal.functor ∧ p.kind = .rules ∧
        a.machine.alternatives? e act goal callee = some (.clauses act.owner p.clauses)

/-- **Rules are kept to their modules**: what is being run, or waits to be run, of a rule is left of the goal that the
query has begun with, or of a rule that has been laid out for a call; so are the rules that are still to be tried; and
the rules of a predicate that is not public have been laid out for a call in a rule of its own module, or for the goal
that the query has begun with on behalf of that module. -/
structure Confined (e : Engine σ) (others : σ → Session → σ → Session → Prop) (owner₀ : Nat) (goal₀ : Call)
    (a₀ a : Moment σ) : Prop where
  run : ∀ act goals, .body act goals ∈ a.control.frames ∨ (∃ d ∈ a.machine.choices.items, .body act goals ∈ d.after) →
    (∃ callee, act.owner = owner₀ ∧ Leaves [.call callee goal₀] goals) ∨
      ∃ goal p, Called e others a₀ a act.context goal act.owner p ∧ ∃ cl ∈ p.clauses, Leaves cl.body goals
  tried : ∀ d ∈ a.machine.choices.items, ∀ goal k tried owner rest,
    d.pending = .call goal k tried (.clauses owner rest) →
      ∃ p, Called e others a₀ a k goal owner p ∧ rest <:+ p.clauses
  hidden : ∀ k goal owner p, Called e others a₀ a k goal owner p → p.isPublic = false →
    ∃ md call, e.library.module? owner = some md ∧ call.functor = p.name ∧
      (owner = owner₀ ∧ call = goal₀ ∨ ∃ callee, ∃ p' ∈ md.predicates, ∃ cl ∈ p'.clauses, Stands cl.body callee call)

section Life

variable {owner : Nat} {goal : Call} {vars : VarTable} {q : Query} {w : σ} {s : Session} {a : Moment σ}

theorem resolved_of_comes (hl : e.library.Built) (hq : ofGoal e.library owner goal vars = .ok q)
    (ha : Comes e others (.rest q w s) a) : Resolved e owner goal a := by
  obtain ⟨md₀, g₀, hmd₀, hg₀, ht⟩ := traced_of_comes hl hq ha
  obtain ⟨callee₀, rfl⟩ := call_of_resolveGoal hg₀
  refine ⟨fun act callee goal' hi => ?_⟩
  obtain ⟨call, rest, fs, hc, hfunctor, -⟩ := invoking?_eq_some hi
  have horigin := ht.frames (.body act (.call callee call :: rest)) (by rw [hc]; exact List.mem_cons_self)
  obtain ⟨md, hmd, hmeans, hstands⟩ := Origin.resolved hl hmd₀ hg₀ horigin ⟨_, List.mem_cons_self, rfl⟩
  rw [← hfunctor] at hmeans
  have hstands : act.owner = owner ∧ call = goal ∨ ∃ p ∈ md.predicates, ∃ cl ∈ p.clauses, Stands cl.body callee call := by
    refine hstands.imp_left fun ⟨ho, he⟩ => ⟨ho, ?_⟩
    cases he
    rfl
  refine ⟨md, call, hmd, hfunctor, hmeans, hstands, fun i hown => ?_⟩
  obtain ⟨p, hp, hname, hkind⟩ := hmeans.place.1 i hown
  refine ⟨p, hp, hname, hkind, ?_⟩
  rw [hown, Machine.alternatives?, Machine.clausesOf, Library.predicate?, hmd, Option.bind_some, hp]
  rfl

theorem confined_of_comes (hl : e.library.Built) (hq : ofGoal e.library owner goal vars = .ok q)
    (ha : Comes e others (.rest q w s) a) : Confined e others owner goal (.rest q w s) a := by
  obtain ⟨md₀, g₀, hmd₀, hg₀, ht⟩ := traced_of_comes hl hq ha
  obtain ⟨callee₀, rfl⟩ := call_of_resolveGoal hg₀
  have horigin : ∀ {act : Activation} {goals : List (Goal Callee)},
      Origin e others owner (.call callee₀ goal) (.rest q w s) a act goals →
        (∃ callee, act.owner = owner ∧ Leaves [.call callee goal] goals) ∨
          ∃ goal p, Called e others (.rest q w s) a act.context goal act.owner p ∧ ∃ cl ∈ p.clauses, Leaves cl.body goals := by
    intro act goals h
    cases h with
    | entry ho h => exact .inl ⟨callee₀, ho, h⟩
    | rule hc hcl h => exact .inr ⟨_, _, hc, _, hcl, h⟩
  refine ⟨?_, fun d hd goal' k tried owner' rest hp => ?_, fun k goal' owner' p hc hprivate => ?_⟩
  · rintro act goals (hf | ⟨d, hd, hf⟩)
    · exact horigin (ht.frames _ hf)
    · exact horigin ((ht.choices d hd).after _ hf)
  · have hpending := (ht.choices d hd).pending
    rw [hp] at hpending
    exact hpending
  · obtain ⟨b, act, callee, i, hb, -, hi, -, -, -, hname, hplace⟩ := hc.made
    rw [hprivate] at hplace
    obtain rfl := hplace.resolve_left Bool.false_ne_true
    obtain ⟨md, call, hmd, hfunctor, -, hstands, -⟩ := (resolved_of_comes hl hq hb).made act callee goal' hi
    exact ⟨md, call, hmd, hfunctor.symm.trans hname.symm, hstands.imp_right fun h => ⟨callee, h⟩⟩

end Life

/-- **Names are resolved in their modules, and private predicates are private**, in every library that has been built and
at every moment in the life of a query, whatever the application and others do: every call of every rule is resolved to
what its name stands for in the module of the rule, a call by a place is one of the module that the rule belongs to, and
the rules of a predicate that is not public are only ever there for a call made in its own module. -/
theorem names_resolved (e : Engine σ) (others : σ → Session → σ → Session → Prop) (hl : e.library.Built) {owner : Nat}
    {goal : Call} {vars : VarTable} {q : Query} (hq : ofGoal e.library owner goal vars = .ok q) {w : σ} {s : Session}
    {a : Moment σ} (ha : Comes e others (.rest q w s) a) :
    (∀ md ∈ e.library.modules, ∀ p ∈ md.predicates, ∀ cl ∈ p.clauses, ∀ callee call, Stands cl.body callee call →
      md.Means e.library call.functor callee) ∧
    Resolved e owner goal a ∧ Confined e others owner goal (.rest q w s) a :=
  ⟨fun _ hmd _ hp _ hcl _ _ ⟨_, hg, hc⟩ => hl.means hmd hp hcl hg hc, resolved_of_comes hl hq ha,
    confined_of_comes hl hq ha⟩

/-! Two modules have a private predicate `_key` each, at different places.  The rule `open :- unlock` of the second module
calls a public predicate of the first, whose rule `unlock :- _key` calls the private one of the first. -/

def lockRules : List RuleText := RuleText.numbered ["unlock :- _key", "_key"]

def lockModule : RuleModule := (RuleModule.compile ⟨[]⟩ "lock" .none lockRules).toOption.getD ⟨"", [], [], .none⟩

def doorRules : List RuleText := RuleText.numbered ["_key :- fail", "open :- unlock"]

def doorModule : RuleModule :=
  (RuleModule.compile ⟨[lockModule]⟩ "door" ⟨[], [0]⟩ doorRules).toOption.getD ⟨"", [], [], .none⟩

def doorEngine : Engine Unit := ⟨⟨[lockModule, doorModule]⟩, .silent, .standard⟩

def doorQuery : Query :=
  (ofGoal ⟨[lockModule, doorModule]⟩ 1 ⟨"open", []⟩ .empty).toOption.getD ⟨[], ⟨0, 0⟩, .ended, .empty, .empty, 0⟩

theorem built_door : doorEngine.library.Built := by
  have hlock : (RuleModule.compile ⟨[]⟩ "lock" .none lockRules).isOk = true := by decide +kernel
  have hdoor : (RuleModule.compile ⟨[lockModule]⟩ "door" ⟨[], [0]⟩ doorRules).isOk = true := by decide +kernel
  have hbuilt : Library.Built ⟨[lockModule]⟩ := .add .empty (List.forall_mem_nil _) (eq_ok_of_isOk hlock _)
  have himports : ∀ id ∈ [0], id < 1 := by simp
  exact .add hbuilt himports (eq_ok_of_isOk hdoor _)

/-- The search comes to the call of `_key` in the first module, where it is the second predicate. -/
theorem names_resolved_door : doorEngine.library.Built ∧
    ofGoal doorEngine.library 1 ⟨"open", []⟩ .empty = .ok doorQuery ∧
      ∃ c m, Comes doorEngine (fun _ _ _ _ => False) (.rest doorQuery () .new) (.search doorQuery c m) ∧
        (c.invoking? doorEngine m).map (fun (act, callee, goal) =>
          (act.owner, (match callee with | .own i => some i | _ => none), goal.functor)) = some (0, some 1, "_key") ∧
        (∀ md ∈ doorEngine.library.modules, ∀ p ∈ md.predicates, ∀ cl ∈ p.clauses, ∀ callee call,
          Stands cl.body callee call → md.Means doorEngine.library call.functor callee) ∧
        Resolved doorEngine 1 ⟨"open", []⟩ (.search doorQuery c m) ∧
        Confined doorEngine (fun _ _ _ _ => False) 1 ⟨"open", []⟩ (.rest doorQuery () .new) (.search doorQuery c m) := by
  have hok : (ofGoal ⟨[lockModule, doorModule]⟩ 1 ⟨"open", []⟩ .empty).isOk = true := by decide +kernel
  have hq : ofGoal doorEngine.library 1 ⟨"open", []⟩ .empty = .ok doorQuery := eq_ok_of_isOk hok _
  have hsearch : (doorQuery.search? doorEngine () .new 4).map (fun r => (r.1.invoking? doorEngine r.2).map
      fun (act, callee, goal) => (act.owner, (match callee with | .own i => some i | _ => none), goal.functor)) =
        some (some (0, some 1, "_key")) := by decide +kernel
  obtain ⟨⟨c, m⟩, hcm, hcall⟩ := Option.map_eq_some_iff.1 hsearch
  have ha : Comes doorEngine (fun _ _ _ _ => False) (.rest doorQuery () .new) (.search doorQuery c m) := comes_search? hcm
  exact ⟨built_door, hq, c, m, ha, hcall, names_resolved doorEngine _ built_door hq ha⟩

end Remedy.Query
