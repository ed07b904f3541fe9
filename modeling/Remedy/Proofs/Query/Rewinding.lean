import Remedy.Proofs.Query.Slots
/-!
# Proofs.Query.Rewinding — going back leads to bindings there have been

Running a goal and resuming a choice only add to the bindings (`extends_executes`, `extends_resumes`).  So, whatever the
application answers, the bindings of a search have come from those of its newest choice, these from those of the next,
and so on down to the bindings the query began with (`Stacked`).  Every change in the life of a query keeps that
(`Founded.passes`): the bindings that a search goes back to are those of an earlier moment, and all chains of variables
in them end (`sound_rewind`).  That slots are in order as well is more, and takes ground answers.
-/
namespace Remedy.Query

open Bindings (Extends)

variable {σ : Type} {b₀ b b' : Bindings} {e : Engine σ} {m m' : Machine σ} {o : Outcome} {act : Activation}
  {after : List Frame} {others : σ → Session → σ → Session → Prop}

/-- **Bindings come from those of the newest choice, and these from those of the next**, down to the first. -/
def Stacked (b₀ : Bindings) : Bindings → List Choice → Prop
  | b, [] => Extends b₀ b
  | b, c :: cs => ∃ b', c.checkpoint = b'.checkpoint ∧ Extends b' b ∧ Stacked b₀ b' cs

theorem Stacked.extend (hb : Extends b b') : ∀ {cs : List Choice}, Stacked b₀ b cs → Stacked b₀ b' cs
  | [], h => Extends.trans h hb
  | _ :: _, ⟨b₁, hc, he, hrest⟩ => ⟨b₁, hc, he.trans hb, hrest⟩

theorem Stacked.drop : ∀ (n : Nat) {cs : List Choice}, Stacked b₀ b cs → Stacked b₀ b (cs.drop n)
  | 0, _, h => h
  | _ + 1, [], h => h
  | n + 1, _ :: _, ⟨_, _, he, hrest⟩ => Stacked.drop n (hrest.extend he)

theorem Stacked.extends : ∀ {cs : List Choice} {b : Bindings}, Stacked b₀ b cs → Extends b₀ b
  | [], _, h => h
  | _ :: _, _, ⟨_, _, he, hrest⟩ => hrest.extends.trans he

theorem Stacked.sound {cs : List Choice} (h : Stacked b₀ b cs) (hb₀ : b₀.Sound) : b.Sound :=
  Extends.trans hb₀ h.extends

/-! ## One transition -/

theorem extends_executes (hs : m.bindings.Sound) {after : List Frame} {g : Goal Callee}
    (hx : m.Executes e act after g o m') : Extends m.bindings m'.bindings := by
  cases hx with
  | unify ha hb => exact Bindings.extends_unify hs _ _
  | is ha => exact Bindings.extends_unify hs _ _
  | retract b c hargs hp hr => exact Bindings.extends_unifyCall hs _ _
  | _ => exact .refl

theorem extends_resumes (hs : m.bindings.Sound) {d : Choice} (hr : m.Resumes d o m') :
    Extends m.bindings m'.bindings := by
  cases hr with
  | negation hp => exact .refl
  | noClause hp hf =>
    obtain rfl := eq_of_firstClause_none hs hf
    exact .refl
  | clause hp hf =>
    obtain ⟨-, -, -, rfl⟩ := exists_of_firstClause_some hs hf
    rw [bindings_keep]
    exact extends_headed hs _ _
  | noFact hp hf =>
    obtain rfl := eq_of_firstFact_none hs hf
    exact .refl
  | fact hp hf =>
    obtain ⟨-, fact, -, rfl⟩ := exists_of_firstFact_some hs hf
    rw [bindings_keep]
    exact Bindings.extends_unifyCall hs _ _
  | answers hp =>
    rw [Machine.bindings_retry]
    exact .refl

/-- **All is founded when a transition has been made**: in the choices, and in what is asked next. -/
structure FoundedBy (b₀ : Bindings) (o : Outcome) (m' : Machine σ) : Prop where
  stacked : Stacked b₀ m'.bindings m'.choices.items
  asks : ∀ i, o = .more (.ask i) → Stacked b₀ m'.bindings (i.choice :: m'.choices.items)

theorem FoundedBy.run (h : Stacked b₀ m.bindings m.choices.items) (ho : ∀ i, o ≠ .more (.ask i)) : FoundedBy b₀ o m :=
  ⟨h, fun i hi => absurd hi (ho i)⟩

theorem Stacked.executes (hb₀ : b₀.Sound) (h : Stacked b₀ m.bindings m.choices.items) {g : Goal Callee}
    (hx : m.Executes e act after g o m') : FoundedBy b₀ o m' := by
  have hext := extends_executes (h.sound hb₀) hx
  cases hx with
  | fault => exact .run h fun _ hi => nomatch hi
  | cut => exact .run (h.drop _) fun _ hi => nomatch hi
  | not g => exact .run ⟨_, rfl, .refl, h⟩ fun _ hi => nomatch hi
  | offer hargs hu => exact .run ⟨_, rfl, .refl, h⟩ fun _ hi => nomatch hi
  | unify | is | test | check | log | assert | retract => exact .run (h.extend hext) (proceed_ne_ask _ _)

theorem Stacked.keep (h : Stacked b₀ b m.choices.items) (he : Extends b b') {c : Choice}
    (hc : c.checkpoint = b.checkpoint) (goal : Call) (k : Nat) (left : Bool) (untried : Untried) :
    Stacked b₀ ((m.withBindings b').keep c goal k left untried).bindings
      ((m.withBindings b').keep c goal k left untried).choices.items := by
  unfold Machine.keep
  cases left with
  | true => exact ⟨b, hc, he, h⟩
  | false => exact h.extend he

theorem Stacked.resumes (hb₀ : b₀.Sound) (h : Stacked b₀ m.bindings m.choices.items) {c : Choice}
    (hc : c.checkpoint = m.bindings.checkpoint) (hr : m.Resumes c o m') : FoundedBy b₀ o m' := by
  have hext := extends_resumes (h.sound hb₀) hr
  have hretry : ∀ k tried, Stacked b₀ m.bindings (m.retry k tried).choices.items := by
    intro k tried
    rw [Machine.choices_retry]
    exact h
  cases hr with
  | negation => exact .run h fun _ hi => nomatch hi
  | noClause | noFact => exact .run ((hretry _ _).extend hext) fun _ hi => nomatch hi
  | clause | fact =>
    rw [bindings_keep] at hext
    exact .run ((hretry _ _).keep hext hc _ _ _ _) fun _ hi => nomatch hi
  | @answers goal args k asked tried p hp =>
    rw [← Machine.bindings_retry m k tried] at hc
    have hk := (hretry k tried).extend hext
    refine ⟨hk, fun i hi => ?_⟩
    cases hi
    exact ⟨_, hc, .refl, hk⟩

/-- An answer is matched with the bindings of the moment to which the inquiry goes back. -/
theorem Stacked.matched (hb₀ : b₀.Sound) {i : Inquiry} {cs : List Choice}
    (h : Stacked b₀ m.bindings (i.choice :: cs)) (a : Answer) :
    Stacked b₀ (m.matched i a).1 (({ i with asked := i.asked + 1 } : Inquiry).choice :: cs) := by
  obtain ⟨b, hcp, he, hrest⟩ := h
  have hcp : i.checkpoint = b.checkpoint := hcp
  have hm : m.matched i a = b.unifyAll (answerEquations i.goal a) := by
    unfold Machine.matched
    rw [hcp, he.rewind_eq]
  rw [hm]
  exact ⟨b, hcp, Bindings.extends_unifyAll (hrest.sound hb₀) _, hrest⟩

/-- What is asked goes back to bindings there have been. -/
def Control.Founded (b₀ : Bindings) (m : Machine σ) : Control → Prop
  | .ask i => Stacked b₀ m.bindings (i.choice :: m.choices.items)
  | _ => True

theorem Stacked.moves (hb₀ : b₀.Sound) (h : Stacked b₀ m.bindings m.choices.items) {c : Control}
    (hc : c.Founded b₀ m) (hm : m.Moves e c o m') : FoundedBy b₀ o m' := by
  cases hm with
  | solved | stopped | bodyEnd => exact .run h fun _ hi => nomatch hi
  | exit | exhausted => exact .run h fun _ hi => nomatch hi
  | negated => exact .run (h.drop _) fun _ hi => nomatch hi
  | @goal act g rest fs o m' ht hx =>
    refine Stacked.executes hb₀ ?_ hx
    rw [bindings_record, Machine.choices_record]
    exact h
  | @back c cs o m' hp hr =>
    rw [items_of_pop hp] at h
    obtain ⟨b, hcp, he, hrest⟩ := h
    have hb : m.bindings.rewind c.checkpoint = b := by rw [hcp, he.rewind_eq]
    subst hb
    exact Stacked.resumes hb₀ hrest hcp hr
  | refused => exact .run h fun _ hi => nomatch hi
  | noAnswer => exact .run h fun _ hi => nomatch hi
  | @answer i a w s ha hu => exact .run (Stacked.matched hb₀ hc a) fun _ hi => nomatch hi
  | @misfitStopped i a w s cause ha hu ht =>
    exact .run (Stacked.drop 1 (Stacked.matched hb₀ hc a)) fun _ hi => nomatch hi
  | @misfit i a w s ha hu ht =>
    have hmatched := Stacked.matched hb₀ hc a
    refine ⟨hmatched.drop 1, fun j hj => ?_⟩
    cases hj
    exact hmatched

/-! ## The whole life of a query -/

/-- **A moment that is founded** on the bindings that the query began with. -/
structure Founded (b₀ : Bindings) (a : Moment σ) : Prop where
  origin : a.query.origin = b₀.checkpoint
  stacked : Stacked b₀ a.machine.bindings a.machine.choices.items
  control : a.control.Founded b₀ a.machine

theorem founded_finish {q : Query} (ho : q.origin = b₀.checkpoint) (h : Extends b₀ m.bindings) :
    Founded b₀ (.after (q.finish m)) := by
  have htree : ∀ (m : Machine σ) (f : Context.Tree → Context.Tree), Stacked b₀ m.bindings m.choices.items →
      Stacked b₀ (m.onTree f).bindings (m.onTree f).choices.items := fun _ _ h => h
  refine ⟨ho, ?_, ?_⟩
  · rw [machine_finish]
    refine htree m.release _ ?_
    rw [items_release]
    exact h
  · rw [control_finish]
    trivial

/-- **What happens next leaves all founded.** -/
theorem Founded.passes (hb₀ : b₀.Sound) {a a' : Moment σ} (h : Founded b₀ a) (hp : Passes e others a a') :
    Founded b₀ a' := by
  have hmoved : ∀ {q : Query} {c : Control} {m m' : Machine σ} {o : Outcome}, Founded b₀ (.search q c m) →
      m.step e c = (o, m') → FoundedBy b₀ o m' := by
    intro q c m m' o h hs
    exact Stacked.moves hb₀ h.stacked h.control (Machine.moves_of_step hs)
  cases hp with
  | begin hq => exact ⟨h.origin, h.stacked, trivial⟩
  | again hq => exact ⟨h.origin, h.stacked, trivial⟩
  | @move q c c' m m' hs =>
    have hm := hmoved h hs
    refine ⟨h.origin, hm.stacked, ?_⟩
    cases c' with
    | ask i => exact hm.asks i rfl
    | run frames => trivial
    | backtrack => trivial
  | solved hs => exact ⟨h.origin, (hmoved h hs).stacked, trivial⟩
  | exhausted hs => exact founded_finish h.origin (hmoved h hs).stacked.extends
  | @failed q c m m' cause hs =>
    have horigin : q.origin = b₀.checkpoint := h.origin
    have hb : (m'.rewind q.origin).bindings = b₀ := by
      unfold Machine.rewind
      simp only
      rw [horigin, (hmoved h hs).stacked.extends.rewind_eq]
    exact founded_finish h.origin (by rw [hb]; exact .refl)
  | @close q w s =>
    unfold Query.close
    split
    · exact h
    · exact founded_finish (m := q.machine w s) h.origin h.stacked.extends
  | other hw => exact ⟨h.origin, h.stacked, h.control⟩

theorem founded_of_comes {l : Library} {owner : Nat} {goal : Call} {vars : VarTable} {q : Query}
    (hq : ofGoal l owner goal vars = .ok q) {w : σ} {s : Session} {a : Moment σ} (ha : Comes e others (.rest q w s) a) :
    Founded (entryBindings goal vars) a := by
  obtain ⟨md, g, -, -, rfl⟩ := ofGoal_eq_ok.1 hq
  exact ha.keeps (fun _ _ h hp => h.passes (sound_entryBindings goal vars) hp) ⟨rfl, .refl, trivial⟩

/-- **What is asked goes back to bindings in which all chains of variables end**, at any time in the life of a query. -/
theorem sound_rewind {l : Library} {owner : Nat} {goal : Call} {vars : VarTable} {q q' : Query}
    (hq : ofGoal l owner goal vars = .ok q) {w : σ} {s : Session} {i : Inquiry} {m : Machine σ}
    (ha : Comes e others (.rest q w s) (.search q' (.ask i) m)) : (m.bindings.rewind i.checkpoint).Sound := by
  have hfounded : Stacked (entryBindings goal vars) m.bindings (i.choice :: m.choices.items) :=
    (founded_of_comes hq ha).control
  obtain ⟨b, hcp, he, hrest⟩ := hfounded
  have hcp : i.checkpoint = b.checkpoint := hcp
  rw [hcp, he.rewind_eq]
  exact hrest.sound (sound_entryBindings goal vars)

end Remedy.Query
