import Remedy.Proofs.Query.Leads
import Remedy.Proofs.Query.Life
import Remedy.Proofs.Query.Spending
/-!
# Proofs.Query.Cutoff — one search under two limits

A search under a higher limit goes the same way as under a lower one, transition by transition, until it needs a step
that the lower limit refuses (`step_withLimit`).  The limit is looked at before anything else, so this is what the
search under the lower limit tells, whoever has cancelled the query (`run_withLimit`, `next_withLimit`).
-/
namespace Remedy.Query

variable {σ : Type} {e : Engine σ} {m m' : Machine σ} {c : Control} {o : Outcome} {n k : Nat}

namespace Machine

/-- **A count under a lower limit** is the same, unless that limit refuses it. -/
theorem tick_withLimit (hnk : n ≤ k) (m : Machine σ) :
    m.ticked.steps ≤ n ∧ m.tick (e.withLimit n).options = m.tick (e.withLimit k).options ∨
      n < m.ticked.steps ∧ m.tick (e.withLimit n).options = (some (.stepLimit n), m.ticked) := by
  have hlimit : ∀ j, (e.withLimit j).options.maxSteps = j := fun _ => rfl
  have hticked : m.ticked.steps = m.steps + 1 := rfl
  unfold tick
  simp only [hlimit]
  by_cases hn : n < m.steps + 1
  · rw [if_pos hn]
    exact .inr ⟨hn, rfl⟩
  · have hk : ¬ k < m.steps + 1 := by omega
    rw [if_neg hn, if_neg hk]
    exact .inl ⟨by omega, rfl⟩

theorem ask_misfit {i : Inquiry} {a : Answer} {w : σ} {s : Session} (h : m.reply e i = (.ok (some a), w, s))
    (hu : (m.matched i a).2 = false) :
    ask e m i = match ((m.heard w s).withBindings (m.matched i a).1).tick e.options with
      | (some cause, m') => (.failed cause, m')
      | (none, m') => (.more (.ask { i with asked := i.asked + 1 }), m') := by
  have hnext : e.host.next e.options.limit m.world m.session i.context i.predicate i.args i.asked =
      (.ok (some a), w, s) := h
  have hu : ¬ ((m.bindings.rewind i.checkpoint).unifyAll (answerEquations i.goal a)).2 = true := by
    exact Bool.eq_false_iff.1 hu
  unfold ask
  rw [hnext]
  simp only
  rw [if_neg hu]
  rfl

/-- An answer that does not fit is a step, which the lower limit may refuse. -/
theorem misfit_withLimit (hnk : n ≤ k) {i : Inquiry} {a : Answer} {w : σ} {s : Session}
    (h : m.reply e i = (.ok (some a), w, s)) (hu : (m.matched i a).2 = false) :
    (ask (e.withLimit k) m i).2.steps ≤ n ∧ ask (e.withLimit n) m i = ask (e.withLimit k) m i ∨
      n < (ask (e.withLimit k) m i).2.steps ∧ (ask (e.withLimit n) m i).1 = .failed (.stepLimit n) := by
  have hask : ∀ j, ask (e.withLimit j) m i = _ := fun j => ask_misfit (e := e.withLimit j) h hu
  have hsnd := tick_snd ((m.heard w s).withBindings (m.matched i a).1) (e.withLimit k).options
  have hsteps : (ask (e.withLimit k) m i).2.steps = m.ticked.steps := by
    rw [hask]
    rcases htick : Machine.tick _ (e.withLimit k).options with ⟨_ | cause, m₁⟩
    · rw [htick] at hsnd
      cases hsnd
      rfl
    · rw [htick] at hsnd
      cases hsnd
      rfl
  rw [hsteps]
  rcases tick_withLimit (e := e) hnk ((m.heard w s).withBindings (m.matched i a).1) with ⟨hle, heq⟩ | ⟨hlt, hstop⟩
  · refine .inl ⟨hle, ?_⟩
    rw [hask, hask, heq]
  · refine .inr ⟨hlt, ?_⟩
    rw [hask, hstop]

/-- Whatever else comes of asking takes no step. -/
theorem fit_withLimit (hm : m.steps ≤ n) {i : Inquiry} {r : Except QueryError (Option Answer)} {w : σ} {s : Session}
    (h : m.reply e i = (r, w, s)) (hu : ∀ a, r = .ok (some a) → (m.matched i a).2 = true) :
    (ask (e.withLimit k) m i).2.steps ≤ n ∧ ask (e.withLimit n) m i = ask (e.withLimit k) m i := by
  have hreply : ∀ j, (e.withLimit j).host.next (e.withLimit j).options.limit m.world m.session i.context
      i.predicate i.args i.asked = (r, w, s) := fun _ => h
  unfold ask
  rw [hreply, hreply]
  rcases r with cause | _ | a
  · exact ⟨hm, rfl⟩
  · exact ⟨hm, rfl⟩
  · have hu : ((m.bindings.rewind i.checkpoint).unifyAll (answerEquations i.goal a)).2 = true := hu a rfl
    simp only [hu, if_true]
    exact ⟨hm, trivial⟩

/-- **A transition under a lower limit** is the same, unless it needs a step that this limit refuses. -/
theorem step_withLimit (hnk : n ≤ k) {m : Machine σ} (hm : m.steps ≤ n) (c : Control) :
    (step (e.withLimit k) m c).2.steps ≤ n ∧ step (e.withLimit n) m c = step (e.withLimit k) m c ∨
      n < (step (e.withLimit k) m c).2.steps ∧ (step (e.withLimit n) m c).1 = .failed (.stepLimit n) := by
  cases c with
  | backtrack =>
    refine .inl ⟨?_, rfl⟩
    rcases hs : step (e.withLimit k) m .backtrack with ⟨o, m'⟩
    cases moves_of_step hs with
    | exhausted hp => exact hm
    | back hp hr => exact Nat.le_trans (Nat.le_of_eq hr.pace.1) hm
  | run frames =>
    cases frames with
    | nil => exact .inl ⟨hm, rfl⟩
    | cons f fs =>
      rw [steps_frame (run_moves (e.withLimit k) m f fs)]
      rcases tick_withLimit (e := e) hnk m with ⟨hle, heq⟩ | ⟨hlt, hstop⟩
      · refine .inl ⟨hle, ?_⟩
        unfold step
        simp only [heq, runFrame_withLimit]
      · refine .inr ⟨hlt, ?_⟩
        unfold step
        simp only [hstop]
  | ask i =>
    rcases hr : m.reply e i with ⟨r, w, s⟩
    by_cases hmisfit : ∃ a, r = .ok (some a) ∧ (m.matched i a).2 = false
    · obtain ⟨a, rfl, hu⟩ := hmisfit
      exact misfit_withLimit hnk hr hu
    · exact .inl (fit_withLimit hm hr fun a ha => eq_true_of_ne_false fun hu => hmisfit ⟨a, ha, hu⟩)

/-- **A search under a lower limit** is the same, unless it needs a step that this limit refuses: then that is what it
tells. -/
theorem run_withLimit (hnk : n ≤ k) (m : Machine σ) (c : Control) (hm : m.steps ≤ n) :
    (run (e.withLimit k) m c).2.steps ≤ n ∧ run (e.withLimit n) m c = run (e.withLimit k) m c ∨
      n < (run (e.withLimit k) m c).2.steps ∧ (run (e.withLimit n) m c).1 = .error (.stepLimit n) := by
  induction hr : remaining (e.withLimit n) m c using Nat.strongRecOn generalizing m c with
  | ind r ih =>
    rcases hs : step (e.withLimit k) m c with ⟨o, m'⟩
    have hstep := step_withLimit (e := e) hnk hm c
    rw [run_eq (e.withLimit n), run_eq (e.withLimit k)]
    rw [hs] at hstep ⊢
    rcases hstep with ⟨hle, heq⟩ | ⟨hlt, hstop⟩
    · rw [heq]
      cases o with
      | more c' =>
        have hlt := remaining_step heq
        exact ih _ (hr ▸ hlt) m' c' hle rfl
      | solved => exact .inl ⟨hle, rfl⟩
      | exhausted => exact .inl ⟨hle, rfl⟩
      | failed cause => exact .inl ⟨hle, rfl⟩
    · refine .inr ⟨?_, ?_⟩
      · cases o with
        | more c' => exact Nat.lt_of_lt_of_le hlt (steps_le_run (e.withLimit k) m' c')
        | solved => exact hlt
        | exhausted => exact hlt
        | failed cause => exact hlt
      · rcases hn : step (e.withLimit n) m c with ⟨o', m₁⟩
        rw [hn] at hstop
        cases hstop
        rfl

end Machine

/-! ## Calls -/

theorem steps_finish (q : Query) (m : Machine σ) : (Moment.after (q.finish m)).machine.steps = m.steps := by
  have htree : ∀ (m : Machine σ) (f : Context.Tree → Context.Tree), (m.onTree f).steps = m.steps := fun _ _ => rfl
  rw [machine_finish, htree, Machine.release, Machine.cut]

theorem steps_goOn (e : Engine σ) (q : Query) (m : Machine σ) (c : Control) :
    (q.goOn e m c).2.1.steps = (m.run e c).2.steps := by
  unfold goOn
  rcases m.run e c with ⟨cause | found, m'⟩
  · exact steps_finish q (m'.rewind q.origin)
  · cases found with
    | true => rfl
    | false => exact steps_finish q m'

/-- **A call under a lower limit** is the same, unless it needs a step that this limit refuses: then that is what it
tells. -/
theorem goOn_withLimit (hnk : n ≤ k) (q : Query) {m : Machine σ} (hm : m.steps ≤ n) (c : Control) :
    (q.goOn (e.withLimit k) m c).2.1.steps ≤ n ∧ q.goOn (e.withLimit n) m c = q.goOn (e.withLimit k) m c ∨
      n < (q.goOn (e.withLimit k) m c).2.1.steps ∧ (q.goOn (e.withLimit n) m c).1 = .error (.stepLimit n) := by
  rw [steps_goOn]
  rcases Machine.run_withLimit (e := e) hnk m c hm with ⟨hle, heq⟩ | ⟨hlt, hstop⟩
  · refine .inl ⟨hle, ?_⟩
    unfold goOn
    rw [heq]
  · refine .inr ⟨hlt, ?_⟩
    unfold goOn
    rcases hr : m.run (e.withLimit n) c with ⟨r, m'⟩
    rw [hr] at hstop
    cases hstop
    rfl

theorem next_withLimit (hnk : n ≤ k) {q : Query} (hq : q.steps ≤ n) (w : σ) (s : Session) :
    (q.next (e.withLimit k) w s).2.1.steps ≤ n ∧ q.next (e.withLimit n) w s = q.next (e.withLimit k) w s ∨
      n < (q.next (e.withLimit k) w s).2.1.steps ∧ (q.next (e.withLimit n) w s).1 = .error (.stepLimit n) := by
  unfold next
  cases q.status with
  | ended => exact .inl ⟨hq, rfl⟩
  | fresh frames => exact goOn_withLimit hnk q (m := q.machine w s) hq (.run frames)
  | yielded => exact goOn_withLimit hnk q (m := q.machine w s) hq .backtrack

end Remedy.Query
