import Remedy.Proofs.Query.Contexts
import Remedy.Proofs.Query.Pace
/-!
# Proofs.Query.Leads — searches that come to the same, whatever the limit

`Leads` joins two states of a search: within the limit both come to the same, and if the limit lies between them the
first ends there.  It holds of a transition (`leads_frame`, `leads_backtrack`) as long as nobody cancels the query, and
it composes (`Leads.trans`), so the steps of a search are counted only here.
-/
namespace Remedy.Query

variable {σ : Type}

def Engine.withLimit (e : Engine σ) (n : Nat) : Engine σ := { e with options := { e.options with maxSteps := n } }

namespace Machine

open Context.Forest (Tended)

/-! ## Queries that nobody cancels -/

/-- **The variables of the query have the given values, and it is not cancelled.** -/
def Quiet (props : String → Option Value) (m : Machine σ) : Prop :=
  m.session.valueOf? = props ∧ m.session.isCancelled = false

variable {props : String → Option Value} {m m' : Machine σ}

theorem Quiet.of_tended (h : Quiet props m) (hv : m'.session.values = m.session.values)
    (ht : Tended m.forest m'.forest) : Quiet props m' := by
  refine ⟨?_, ht.root_not_cancelled h.2⟩
  rw [← h.1]
  funext name
  unfold Session.valueOf?
  rw [hv]

theorem Quiet.record (h : Quiet props m) (o : Options) (g : Goal Callee) : Quiet props (m.record o g) := by
  unfold Machine.record
  split
  · exact h.of_tended rfl .refl
  · exact h

theorem Quiet.setStable (h : Quiet props m) (k : Nat) (b : Bool) : Quiet props (m.onTree (·.setStable k b)) := by
  refine h.of_tended rfl ?_
  rw [forest_setStable]
  exact .setStable .refl k b

theorem Quiet.detach (h : Quiet props m) (k : Nat) : Quiet props (m.onTree (·.detach k)) := by
  refine h.of_tended rfl ?_
  rw [forest_detach]
  exact .detach .refl k

theorem Quiet.retry (h : Quiet props m) (k : Nat) (tried : Bool) : Quiet props (m.retry k tried) := by
  unfold Machine.retry
  split
  · exact h.setStable k false
  · exact h

theorem Quiet.cut (h : Quiet props m) (height : Nat) (kept : Option Nat) : Quiet props (m.cut height kept) :=
  h.of_tended rfl (tended_cut m height kept)

theorem tick_of_quiet (h : Quiet props m) (o : Options) :
    m.tick o = (if o.maxSteps < m.steps + 1 then some (.stepLimit o.maxSteps) else none, m.ticked) := by
  unfold tick
  simp only
  split
  · rfl
  · exact if_neg (by rw [h.2]; exact Bool.false_ne_true)

/-! ## Searches that come to the same -/

/-- **The search from `c` and `m` comes to the search from `c'` and `m'`**, or ends before it at the limit. -/
structure Leads (e : Engine σ) (c : Control) (m : Machine σ) (c' : Control) (m' : Machine σ) : Prop where
  steps_le : m.steps ≤ m'.steps
  within : ∀ n, m'.steps ≤ n → run (e.withLimit n) m c = run (e.withLimit n) m' c'
  beyond : ∀ n, m.steps ≤ n → n < m'.steps → (run (e.withLimit n) m c).1 = .error (.stepLimit n)

variable {e : Engine σ} {c c' c'' : Control} {m'' : Machine σ}

theorem Leads.refl (e : Engine σ) (c : Control) (m : Machine σ) : Leads e c m c m :=
  ⟨Nat.le_refl _, fun _ _ => rfl, fun _ h h' => absurd h' (Nat.not_lt.2 h)⟩

theorem Leads.trans (h : Leads e c m c' m') (h' : Leads e c' m' c'' m'') : Leads e c m c'' m'' := by
  refine ⟨Nat.le_trans h.steps_le h'.steps_le, fun n hn => ?_, fun n hn hlt => ?_⟩
  · rw [h.within n (Nat.le_trans h'.steps_le hn), h'.within n hn]
  · by_cases hm : m'.steps ≤ n
    · rw [h.within n hm]
      exact h'.beyond n hm hlt
    · exact h.beyond n hn (Nat.lt_of_not_le hm)

theorem runFrame_withLimit (e : Engine σ) (n : Nat) (m : Machine σ) (f : Frame) (fs : List Frame) :
    runFrame (e.withLimit n) m f fs = runFrame e m f fs := by
  cases f with
  | body act goals =>
    cases goals with
    | nil => rfl
    | cons g rest => cases g <;> rfl
  | _ => rfl

theorem step_run (hq : Quiet props m) (e : Engine σ) (n : Nat) (f : Frame) (fs : List Frame) :
    step (e.withLimit n) m (.run (f :: fs)) =
      if n < m.steps + 1 then (.failed (.stepLimit n), m.ticked) else runFrame e m.ticked f fs := by
  unfold step
  simp only
  rw [tick_of_quiet hq]
  have hn : (e.withLimit n).options.maxSteps = n := rfl
  rw [hn, ← runFrame_withLimit e n]
  by_cases h : n < m.steps + 1
  · rw [if_pos h, if_pos h]
  · rw [if_neg h, if_neg h]

theorem leads_frame (hq : Quiet props m) {f : Frame} {fs : List Frame}
    (h : runFrame e m.ticked f fs = (.more c', m')) (hs : m'.steps = m.steps + 1) :
    Leads e (.run (f :: fs)) m c' m' := by
  refine ⟨by omega, fun n hn => ?_, fun n hn hlt => ?_⟩
  · rw [run_eq, step_run hq, if_neg (by omega), h]
  · rw [run_eq, step_run hq, if_pos (by omega)]

theorem leads_backtrack (h : m.backtrack = (.more c', m')) (hs : m'.steps = m.steps) : Leads e .backtrack m c' m' := by
  refine ⟨by omega, fun n hn => ?_, fun n hn hlt => absurd hlt (by omega)⟩
  have hb : step (e.withLimit n) m .backtrack = (.more c', m') := h
  rw [run_eq, hb]

/-- **The search ends in an error**, unless the limit comes before it. -/
def Fails (e : Engine σ) (c : Control) (m : Machine σ) (cause : QueryError) : Prop :=
  ∃ s, m.steps ≤ s ∧ (∀ n, s ≤ n → (run (e.withLimit n) m c).1 = .error cause) ∧
    ∀ n, m.steps ≤ n → n < s → (run (e.withLimit n) m c).1 = .error (.stepLimit n)

theorem Leads.fails {cause : QueryError} (h : Leads e c m c' m') (hf : Fails e c' m' cause) : Fails e c m cause := by
  obtain ⟨s, hs, hat, hbefore⟩ := hf
  refine ⟨s, Nat.le_trans h.steps_le hs, fun n hn => ?_, fun n hn hlt => ?_⟩
  · rw [h.within n (Nat.le_trans hs hn)]
    exact hat n hn
  · by_cases hm : m'.steps ≤ n
    · rw [h.within n hm]
      exact hbefore n hm hlt
    · exact h.beyond n hn (Nat.lt_of_not_le hm)

theorem fails_frame (hq : Quiet props m) {f : Frame} {fs : List Frame} {cause : QueryError}
    (h : (runFrame e m.ticked f fs).1 = .failed cause) : Fails e (.run (f :: fs)) m cause := by
  refine ⟨m.steps + 1, Nat.le_succ _, fun n hn => ?_, fun n hn hlt => ?_⟩
  · rw [run_eq, step_run hq, if_neg (by omega)]
    rcases hr : runFrame e m.ticked f fs with ⟨o, m'⟩
    rw [hr] at h
    have h : o = .failed cause := h
    subst h
    rfl
  · rw [run_eq, step_run hq, if_pos (by omega)]

end Machine

end Remedy.Query
