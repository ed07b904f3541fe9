import Remedy.Proofs.Context.Neighbours
import Remedy.Proofs.Query.Contexts
import Remedy.Proofs.Query.Pace
/-!
# Proofs.Query.Spending — what a transition costs

A step is a frame that is run, or an answer of the application that does not fit.  It is counted before it is executed,
so what is executed is within the limit; every choice that is put on the stack for the first time comes with a step
(`pays_moves`), and so does every context that a search makes (`made_le`).
-/
namespace Remedy.Query

open Context (Forest)

variable {σ : Type} {e : Engine σ} {m m' : Machine σ} {c c' : Control} {o : Outcome}

def Host.MakesNone (h : Host σ) : Prop :=
  ∀ w s p args n, (h.ask w s p args n).session.tree.forest.size = s.tree.forest.size

/-- A choice has been taken off the stack and may come back. -/
def Control.waits : Control → Nat
  | .ask _ => 1
  | _ => 0

namespace Machine

/-! ## What a transition spends -/

/-- **The steps that a transition executes**: one for a frame that is run, unless the search is stopped there, and one
for an answer that does not fit, if the application is asked for another. -/
def executed (e : Engine σ) (m : Machine σ) : Control → Outcome → Nat
  | .run (_ :: _), _ => if (m.tick e.options).1.isNone then 1 else 0
  | .ask _, .more (.ask _) => 1
  | _, _ => 0

def made (m m' : Machine σ) : Nat := m'.forest.size - m.forest.size

/-- **What a transition pays for**: a step that is executed is counted, and within the limit; a choice that is put on
the stack, and not back there, comes with a step. -/
structure Pays (e : Engine σ) (m : Machine σ) (c : Control) (o : Outcome) (m' : Machine σ) : Prop where
  counted : m.steps + executed e m c o ≤ m'.steps
  allowed : executed e m c o = 0 ∨ m'.steps ≤ e.options.maxSteps
  single : m'.steps ≤ m.steps + 1
  onward : (∀ cause, o ≠ .failed cause) → m'.steps = m.steps + executed e m c o
  stack : ∀ c', o = .more c' → m'.choices.height + c'.waits ≤ m.choices.height + c.waits + executed e m c o

theorem waits_of_rank (h : c.rank ≤ 2) : c.waits = 0 := by
  cases c with
  | ask i =>
    have h : 3 ≤ 2 := h
    omega
  | _ => rfl

theorem executed_run (f : Frame) (fs : List Frame) (o : Outcome) (h : (m.tick e.options).1 = none) :
    executed e m (.run (f :: fs)) o = 1 := by
  unfold executed
  rw [h]
  rfl

theorem pays_frame {f : Frame} {fs : List Frame} (ht : (m.tick e.options).1 = none) (hs : m'.steps = m.steps + 1)
    (hh : m'.choices.height ≤ m.choices.height + 1) (hr : ∀ c', o = .more c' → c'.rank ≤ 2) :
    Pays e m (.run (f :: fs)) o m' := by
  have hx := executed_run f fs o ht
  have hlt := lt_of_tick ht
  refine ⟨by omega, .inr (by omega), by omega, fun _ => by omega, fun c' ho => ?_⟩
  have hc' := waits_of_rank (hr c' ho)
  have hc : (Control.run (f :: fs)).waits = 0 := rfl
  omega

theorem pays_moves (h : Moves e m c o m') : Pays e m c o m' := by
  cases h with
  | solved => exact ⟨Nat.le_refl _, .inl rfl, Nat.le_succ _, fun _ => rfl, fun _ ho => nomatch ho⟩
  | @stopped f fs cause ht =>
    have hx : executed e m (.run (f :: fs)) (.failed cause) = 0 := by
      unfold executed
      rw [ht]
      rfl
    have hs : m.ticked.steps = m.steps + 1 := rfl
    exact ⟨by omega, .inl hx, by omega, fun hne => absurd rfl (hne cause), fun _ ho => nomatch ho⟩
  | exit ht => exact pays_frame ht rfl (Nat.le_succ _) fun c' ho => by cases ho; exact Nat.zero_le _
  | @negated height fs ht =>
    have hh := Nat.le_succ_of_le (height_cut_le m.ticked height none)
    exact pays_frame ht rfl hh fun c' ho => by cases ho; exact Nat.le_refl _
  | bodyEnd ht => exact pays_frame ht rfl (Nat.le_succ _) fun c' ho => by cases ho; exact Nat.zero_le _
  | @goal act g rest fs o m' ht hx =>
    obtain ⟨hs, hh, hr⟩ := hx.pace
    rw [steps_record] at hs
    rw [choices_record] at hh
    exact pays_frame ht hs hh hr
  | exhausted hp => exact ⟨Nat.le_refl _, .inl rfl, Nat.le_succ _, fun _ => rfl, fun _ ho => nomatch ho⟩
  | @back ch cs o m' hp hr =>
    obtain ⟨hs, hc⟩ := hr.pace
    have hs : m'.steps = m.steps := hs
    have hpop := height_of_pop hp
    have hx : executed e m .backtrack o = 0 := by cases o <;> rfl
    refine ⟨by omega, .inl hx, by omega, fun _ => by omega, fun c' ho => ?_⟩
    have hle := hc c' ho
    simp only [rewind] at hle
    have hw : Control.backtrack.waits = 0 := rfl
    cases c' <;> simp only [Control.rank, Control.waits] at hle ⊢ <;> omega
  | refused ha => exact ⟨Nat.le_refl _, .inl rfl, Nat.le_succ _, fun _ => rfl, fun _ ho => nomatch ho⟩
  | noAnswer ha =>
    refine ⟨Nat.le_refl _, .inl rfl, Nat.le_succ _, fun _ => rfl, fun c' ho => ?_⟩
    cases ho
    exact Nat.le_succ _
  | answer ha hu =>
    refine ⟨Nat.le_refl _, .inl rfl, Nat.le_succ _, fun _ => rfl, fun c' ho => ?_⟩
    cases ho
    exact Nat.le_refl _
  | @misfitStopped i a w s cause ha hu ht =>
    exact ⟨Nat.le_succ _, .inl rfl, Nat.le_refl _, fun hne => absurd rfl (hne cause), fun _ ho => nomatch ho⟩
  | @misfit i a w s ha hu ht =>
    have hlt := lt_of_tick ht
    have hlt : m.steps < e.options.maxSteps := hlt
    refine ⟨Nat.le_refl _, .inr hlt, Nat.le_refl _, fun _ => rfl, fun c' ho => ?_⟩
    cases ho
    exact Nat.le_succ _

/-! ## Contexts -/

theorem size_cut (m : Machine σ) (height : Nat) (kept : Option Nat) :
    (m.cut height kept).forest.size = m.forest.size := Context.Tree.size_detachAll _ m.session.tree

theorem size_setStable (m : Machine σ) (k : Nat) (b : Bool) :
    (m.onTree (·.setStable k b)).forest.size = m.forest.size := by
  rw [forest_setStable, Forest.size_setStable]

theorem size_detach (m : Machine σ) (k : Nat) : (m.onTree (·.detach k)).forest.size = m.forest.size := by
  rw [forest_detach, Forest.size_detach]

theorem size_retry (m : Machine σ) (k : Nat) (tried : Bool) : (m.retry k tried).forest.size = m.forest.size := by
  unfold retry
  split
  · exact size_setStable m k false
  · rfl

theorem size_reply (hh : e.host.MakesNone) (m : Machine σ) (i : Inquiry) :
    (m.reply e i).2.2.tree.forest.size = m.forest.size := by
  unfold reply Host.next
  split
  · rfl
  · split
    · rfl
    · exact hh _ _ _ _ _

theorem size_executes {act : Activation} {after : List Frame} {g : Goal Callee} (h : m.Executes e act after g o m') :
    m'.forest.size ≤ m.forest.size + 1 := by
  cases h with
  | cut =>
    rw [size_cut]
    exact Nat.le_succ _
  | assert b c hs =>
    have ht : Machine.forest { m with session := _ } = m.forest := congrArg Context.Tree.forest (tree_assert hs)
    rw [ht]
    exact Nat.le_succ _
  | @offer callee c args untried hargs hu =>
    refine Nat.le_of_eq ?_
    rw [forest_offer, Forest.size_create]
  | _ => exact Nat.le_succ _

theorem size_resumes {ch : Choice} (h : m.Resumes ch o m') : m'.forest.size = m.forest.size := by
  cases h with
  | negation hp => rfl
  | @noClause goal k owner tried clauses b hp hf => exact (size_detach _ k).trans (size_retry m k tried)
  | @clause goal k owner base tried clauses rest cl b hp hf =>
    rw [forest_keep]
    exact size_retry m k tried
  | @noFact goal k tried facts b hp hf => exact (size_detach _ k).trans (size_retry m k tried)
  | @fact goal k tried facts rest b hp hf =>
    rw [forest_keep]
    exact size_retry m k tried
  | answers hp => exact size_retry m _ _

theorem made_eq_zero (h : m'.forest.size = m.forest.size) : made m m' = 0 :=
  Nat.sub_eq_zero_of_le (Nat.le_of_eq h)

/-- **A context is made by a step only**, if the application makes none. -/
theorem made_le (hh : e.host.MakesNone) (h : Moves e m c o m') : made m m' ≤ executed e m c o := by
  have hnone : ∀ {m₁ : Machine σ} {n : Nat}, m₁.forest.size = m.forest.size → made m m₁ ≤ n := by
    intro m₁ n hm
    rw [made_eq_zero hm]
    exact Nat.zero_le n
  have hheard : ∀ {i : Inquiry} {r : Except QueryError (Option Answer)} {w : σ} {s : Session}, m.reply e i = (r, w, s) →
      (m.heard w s).forest.size = m.forest.size := by
    intro i r w s ha
    have hsize := size_reply hh m i
    rw [ha] at hsize
    exact hsize
  cases h with
  | solved => exact hnone rfl
  | stopped ht => exact hnone rfl
  | exit ht => exact hnone (size_setStable ..)
  | negated ht => exact hnone (size_cut ..)
  | bodyEnd ht => exact hnone rfl
  | @goal act g rest fs o m' ht hx =>
    have hsize := size_executes hx
    rw [forest_record] at hsize
    have hsize : m'.forest.size ≤ m.forest.size + 1 := hsize
    rw [executed_run _ fs o ht]
    unfold made
    omega
  | exhausted hp => exact hnone rfl
  | back hp hr =>
    have hsize := size_resumes hr
    exact hnone hsize
  | refused ha => exact hnone (hheard ha)
  | noAnswer ha => exact hnone ((size_detach ..).trans (hheard ha))
  | answer ha hu => exact hnone (hheard ha)
  | misfitStopped ha hu ht => exact hnone (hheard ha)
  | misfit ha hu ht => exact hnone (hheard ha)

/-! ## Searches come to an end -/

/-- **A search arrives** at its end after so many transitions. -/
inductive Arrives (e : Engine σ) : Nat → Machine σ → Control → Except QueryError Bool × Machine σ → Prop
  | ended {m : Machine σ} {c : Control} {r : Except QueryError Bool × Machine σ} (h : Ends e m c r) :
    Arrives e 0 m c r
  | move {n : Nat} {m m' : Machine σ} {c c' : Control} {r : Except QueryError Bool × Machine σ}
    (h : step e m c = (.more c', m')) (ha : Arrives e n m' c' r) : Arrives e (n + 1) m c r

theorem run_arrives (e : Engine σ) (m : Machine σ) (c : Control) :
    ∃ n ≤ remaining e m c, Arrives e n m c (run e m c) := by
  induction hn : remaining e m c using Nat.strongRecOn generalizing m c with
  | ind n ih =>
    rcases hs : step e m c with ⟨c' | _ | _ | cause, m'⟩
    · have hlt := remaining_step hs
      obtain ⟨k, hk, ha⟩ := ih _ (hn ▸ hlt) m' c' rfl
      rw [run_eq, hs]
      exact ⟨k + 1, by omega, .move hs ha⟩
    · rw [run_eq, hs]
      exact ⟨0, Nat.zero_le _, .ended (.solved hs)⟩
    · rw [run_eq, hs]
      exact ⟨0, Nat.zero_le _, .ended (.exhausted hs)⟩
    · rw [run_eq, hs]
      exact ⟨0, Nat.zero_le _, .ended (.failed hs)⟩

/-! ## Counts grow -/

theorem steps_frame {f : Frame} {fs : List Frame} (h : Moves e m (.run (f :: fs)) o m') : m'.steps = m.steps + 1 := by
  cases h with
  | goal ht hx =>
    have hs := hx.pace.1
    rw [steps_record] at hs
    exact hs
  | _ => rfl

theorem steps_le_step (h : step e m c = (o, m')) : m.steps ≤ m'.steps :=
  Nat.le_of_add_right_le (pays_moves (moves_of_step h)).counted

theorem steps_le_run (e : Engine σ) (m : Machine σ) (c : Control) : m.steps ≤ (run e m c).2.steps := by
  obtain ⟨c₁, m₁, hle, hends⟩ := run_ends (e := e) (P := fun _ m' => m.steps ≤ m'.steps)
    (fun _ _ _ _ hle hs => Nat.le_trans hle (steps_le_step hs)) c m (Nat.le_refl _)
  generalize run e m c = r at hends
  cases hends with
  | solved hs => exact Nat.le_trans hle (steps_le_step hs)
  | exhausted hs => exact Nat.le_trans hle (steps_le_step hs)
  | failed hs => exact Nat.le_trans hle (steps_le_step hs)

end Machine

end Remedy.Query
