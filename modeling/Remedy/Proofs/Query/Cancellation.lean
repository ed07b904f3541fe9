import Remedy.Proofs.Program.Scope
import Remedy.Proofs.Query.Once
import Remedy.Proofs.Query.Standing
/-!
# Proofs.Query.Cancellation — when the root is cancelled, all stops

Only running a goal checks whether the root is cancelled.  Going back to a choice checks nothing, and asking the
application checks the context of the call: that nothing is asked any more rests on that context hanging together with
the root, so that cancelling the root has cancelled it too (`Intact.stopped`).  From then on no goal is run, nobody is
asked, and there is no solution, at whatever moment the root has been cancelled (`cancelled_stops`).  The query is
supposed to be the only one in its contexts: others may make contexts, mark and cancel them, but take away none of its.
-/
namespace Remedy.Query

open Context (Forest)

variable {σ : Type} {e : Engine σ} {m m' : Machine σ} {o : Outcome} {others : σ → Session → σ → Session → Prop}

/-! ## The whole life of a query -/

/-- **A moment at which all that is pending hangs together with the root**; a query that waits, or whose root is
cancelled, is not about to give a solution. -/
structure Intact (a : Moment σ) : Prop where
  rooted : Rooted a.machine
  control : a.control.Stands a.machine
  waiting : ∀ q w s, a = .rest q w s → a.control ≠ .run []
  cancelled : a.machine.forest.isCancelled 0 = true → a.control ≠ .run []

theorem not_cancelled_of_tick {o : Options} (h : (m.tick o).1 = none) : m.forest.isCancelled 0 = false := by
  unfold Machine.tick at h
  simp only at h
  split at h
  · cases h
  · split at h
    · cases h
    · rename_i hc
      exact Bool.eq_false_iff.2 hc

theorem tick_of_moves {frames : List Frame} {c : Control} (h : m.Moves e (.run frames) o m') (ho : o = .more c) :
    (m.tick e.options).1 = none := by
  cases h with
  | solved => cases ho
  | stopped ht => cases ho
  | exit ht => exact ht
  | negated ht => exact ht
  | bodyEnd ht => exact ht
  | goal ht hx => exact ht

theorem resumes_ne_nil {c : Choice} {frames : List Frame} (hc : c.after ≠ []) (h : m.Resumes c o m')
    (ho : o = .more (.run frames)) : frames ≠ [] := by
  cases h with
  | negation hp =>
    cases ho
    exact hc
  | noClause hp hf => cases ho
  | clause hp hf =>
    cases ho
    exact List.cons_ne_nil _ _
  | noFact hp hf => cases ho
  | fact hp hf =>
    cases ho
    exact hc
  | answers hp => cases ho

/-- **A search comes to a solution only where the root is not cancelled.** -/
theorem not_cancelled_of_run_nil (hr : Rooted m) {c : Control} (hc : c.Stands m) (h : m.Moves e c o m')
    (ho : o = .more (.run [])) : m'.forest.isCancelled 0 = false := by
  cases c with
  | run frames =>
    have ht := Machine.tended_moves h (fun _ h => nomatch h)
    exact ht.root_not_cancelled (not_cancelled_of_tick (tick_of_moves h ho))
  | backtrack =>
    cases h with
    | exhausted hp => cases ho
    | @back d ds o m' hp hres =>
      have hst := hr.choices
      rw [items_of_pop hp] at hst
      exact absurd rfl (resumes_ne_nil hst.1.after hres ho)
  | ask i =>
    have hne : i.after ≠ [] := Choice.Stands.after hc
    cases h with
    | refused ha => cases ho
    | noAnswer ha => cases ho
    | answer ha hu =>
      injection ho with ho
      injection ho with ho
      exact absurd ho hne
    | misfitStopped ha hu ht => cases ho
    | misfit ha hu ht => cases ho

/-- **A query that ends leaves nothing pending.** -/
theorem intact_finish {q : Query} (h : m.forest.Sane) : Intact (.after (q.finish m)) := by
  refine ⟨⟨?_, ?_⟩, ?_, fun _ _ _ _ => ?_, fun _ => ?_⟩
  · rw [forest_finish]
    have hr : m.release.forest.Sane := sane_detachAll _ m.session.tree h
    exact (hr.clear 0).setStable 0 true
  · rw [machine_finish]
    have hi : (m.release.onTree fun t => (t.clear 0).setStable 0 true).choices.items = [] := items_release m
    rw [hi]
    trivial
  · rw [control_finish]
    trivial
  · rw [control_finish]
    exact fun h => nomatch h
  · rw [control_finish]
    exact fun h => nomatch h

theorem Control.Stands.spared {c : Control} (h : c.Stands m) (hs : Forest.Spared m.forest m'.forest)
    (hc : m'.choices = m.choices) : c.Stands m' := by
  cases c with
  | run frames =>
    unfold Control.Stands
    rw [hc]
    exact Framed.forest h fun _ _ _ _ hk => hs.connected hk
  | backtrack => trivial
  | ask i =>
    unfold Control.Stands
    rw [hc]
    exact Choice.Stands.forest h fun _ _ hk => hs.connected hk

/-- **What happens next keeps all together**, as long as others spare the contexts. -/
theorem Intact.passes (hh : e.host.Sparing)
    (ho : ∀ w s w' s', others w s w' s' → Forest.Spares s.tree.forest s'.tree.forest) {a b : Moment σ} (h : Intact a)
    (hp : Passes e others a b) : Intact b := by
  have hmoved : ∀ {q : Query} {c : Control} {m m' : Machine σ} {o : Outcome}, Intact (.search q c m) →
      m.step e c = (o, m') → RootedBy o m' ∧ (o = .more (.run []) → m'.forest.isCancelled 0 = false) := by
    intro q c m m' o h hs
    have hm := Machine.moves_of_step hs
    exact ⟨h.rooted.moves hh h.control hm, not_cancelled_of_run_nil h.rooted h.control hm⟩
  cases hp with
  | @begin q w s frames hq =>
    have hc : Moment.control (.rest q w s) = .run frames := by
      unfold Moment.control
      simp only [hq]
    have hne := h.waiting q w s rfl
    have hstands := h.control
    rw [hc] at hne hstands
    exact ⟨h.rooted, hstands, (fun _ _ _ he => nomatch he), fun _ => hne⟩
  | again hq => exact ⟨h.rooted, trivial, (fun _ _ _ he => nomatch he), fun _ he => nomatch he⟩
  | @move q c c' m m' hs =>
    obtain ⟨hr, hne⟩ := hmoved h hs
    refine ⟨hr.rooted, hr.control _ rfl, (fun _ _ _ he => nomatch he), fun hc he => ?_⟩
    have he : c' = .run [] := he
    have hcalm := hne (congrArg Outcome.more he)
    have hc : m'.forest.isCancelled 0 = true := hc
    rw [hc] at hcalm
    cases hcalm
  | solved hs =>
    obtain ⟨hr, -⟩ := hmoved h hs
    exact ⟨⟨hr.rooted.sane, hr.rooted.choices⟩, trivial, (fun _ _ _ _ he => nomatch he), fun _ he => nomatch he⟩
  | exhausted hs => exact intact_finish (hmoved h hs).1.rooted.sane
  | @failed q c m m' cause hs =>
    have hsane : (m'.rewind q.origin).forest.Sane := (hmoved h hs).1.rooted.sane
    exact intact_finish hsane
  | @close q w s =>
    unfold Query.close
    split
    · exact h
    · exact intact_finish (m := q.machine w s) h.rooted.sane
  | @other q w w' s s' hw =>
    have hs : Forest.Spared s.tree.forest s'.tree.forest := (ho _ _ _ _ hw).spared h.rooted.sane
    have hne : ∀ q' w'' s'', Moment.rest q w' s' = .rest q' w'' s'' → (Moment.rest q w' s').control ≠ .run [] :=
      fun _ _ _ _ => h.waiting q w s rfl
    have hm : Rooted (q.machine w' s') := Rooted.spared (m := q.machine w s) h.rooted hs rfl
    exact ⟨hm, Control.Stands.spared (m := q.machine w s) h.control hs rfl, hne, fun _ => hne _ _ _ rfl⟩

theorem intact_begun {l : Library} {owner : Nat} {goal : Call} {vars : VarTable} {q : Query}
    (hq : ofGoal l owner goal vars = .ok q) (w : σ) {s : Session} (hs : s.tree.forest.Sane) :
    Intact (.rest q w s) := by
  obtain ⟨md, g, -, hg, rfl⟩ := ofGoal_eq_ok.1 hq
  obtain ⟨callee, rfl⟩ := call_of_resolveGoal hg
  refine ⟨⟨hs, trivial⟩, ?_, (fun _ _ _ _ he => nomatch he), fun _ he => nomatch he⟩
  refine Framed.nil.cons ⟨.root, fun _ hc => nomatch hc⟩ (fun _ => ?_) fun _ _ _ hf => nomatch hf
  exact List.forall_mem_singleton.2 ⟨callee, goal, rfl⟩

theorem intact_entry {l : Library} {owner : Nat} {goal : Call} {vars : VarTable} {q : Query}
    (hq : ofGoal l owner goal vars = .ok q) (w : σ) {s : Session} (hs : s.tree.forest.Made) :
    Intact (.rest q w s) := intact_begun hq w hs.sane

/-! ## After the root has been cancelled -/

theorem world_resumes {c : Choice} (h : m.Resumes c o m') : m'.world = m.world := by
  cases h with
  | negation hp => rfl
  | noClause hp hf => exact Machine.world_retry m _ _
  | clause hp hf => exact (Machine.world_keep _ _ _ _ _ _).trans (Machine.world_retry m _ _)
  | noFact hp hf => exact Machine.world_retry m _ _
  | fact hp hf => exact (Machine.world_keep _ _ _ _ _ _).trans (Machine.world_retry m _ _)
  | answers hp => exact Machine.world_retry m _ _

theorem resumes_ne_solved {c : Choice} (h : m.Resumes c o m') : o ≠ .solved := by
  cases h <;> exact fun ho => nomatch ho

/-- **A transition under a cancelled root** asks nobody, comes to no solution, and leaves the root cancelled. -/
theorem Intact.stopped {q : Query} {c : Control} (h : Intact (.search q c m)) (hc : m.forest.isCancelled 0 = true)
    (hs : m.step e c = (o, m')) : m'.world = m.world ∧ o ≠ .solved ∧ m'.forest.isCancelled 0 = true := by
  have hm := Machine.moves_of_step hs
  have hne : c ≠ .run [] := h.cancelled hc
  have hroot : 0 < m.forest.size := h.rooted.sane.root
  cases c with
  | run frames =>
    have htick : ∀ {P : Prop}, (m.tick e.options).1 = none → P := by
      intro P ht
      have hcalm := not_cancelled_of_tick ht
      rw [hc] at hcalm
      cases hcalm
    cases hm with
    | solved => exact absurd rfl hne
    | stopped ht => exact ⟨rfl, (fun ho => nomatch ho), hc⟩
    | exit ht => exact htick ht
    | negated ht => exact htick ht
    | bodyEnd ht => exact htick ht
    | goal ht hx => exact htick ht
  | backtrack =>
    have hf := (Machine.tended_moves hm (fun _ he => nomatch he)).isCancelled_eq hroot
    refine ⟨?_, ?_, hf.trans hc⟩
    · cases hm with
      | exhausted hp => rfl
      | back hp hr =>
        have hw := world_resumes hr
        exact hw
    · cases hm with
      | exhausted hp => exact fun ho => nomatch ho
      | back hp hr => exact resumes_ne_solved hr
  | ask i =>
    -- the context of the call hangs together with the root, so it is cancelled too
    have hi : m.forest.isCancelled i.context = true :=
      (Choice.Stands.connected h.control i.context rfl).isCancelled h.rooted.sane hc
    have hreply : m.reply e i = (.error .cancelled, m.world, m.session) := if_pos hi
    cases hm with
    | refused ha =>
      rw [hreply] at ha
      cases ha
      exact ⟨rfl, (fun ho => nomatch ho), hc⟩
    | noAnswer ha => rw [hreply] at ha; cases ha
    | answer ha hu => rw [hreply] at ha; cases ha
    | misfitStopped ha hu ht => rw [hreply] at ha; cases ha
    | misfit ha hu ht => rw [hreply] at ha; cases ha

end Remedy.Query
