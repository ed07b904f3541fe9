import Remedy.Proofs.Query.Moves
/-!
# Proofs.Query.Pace — a search never runs out of transitions

A search may make a number of transitions that is computed beforehand (`Machine.enough`).  Every transition lowers
`remaining`: a step is counted against its limit and puts at most one choice on the stack, and going back takes a
choice away.  So the number is never used up, and a search is its first transition and the search from there
(`run_eq`); what every transition keeps holds where the search ends (`run_ends`).
-/
namespace Remedy.Query

/-- How many transitions may follow without a step, beyond those that empty the stack. -/
def Control.rank : Control → Nat
  | .run _ => 0
  | .backtrack => 2
  | .ask _ => 3

namespace Machine

variable {σ : Type}

/-- **More than the transitions that may follow.** -/
def remaining (e : Engine σ) (m : Machine σ) (c : Control) : Nat :=
  5 * (e.options.maxSteps + 1 - m.steps) + 2 * m.choices.height + c.rank

theorem lt_of_tick {m : Machine σ} {o : Options} (h : (m.tick o).1 = none) : m.steps < o.maxSteps := by
  unfold tick at h
  simp only at h
  split at h
  · cases h
  · rename_i hlt
    omega

theorem height_cut_le (m : Machine σ) (h : Nat) (k : Option Nat) : (m.cut h k).choices.height ≤ m.choices.height := by
  simp only [cut, Stack.cut]
  omega

theorem steps_retry (m : Machine σ) (k : Nat) (tried : Bool) : (m.retry k tried).steps = m.steps := by
  unfold retry
  split <;> rfl

theorem height_keep_le (m : Machine σ) (c : Choice) (goal : Call) (k : Nat) (left : Bool) (u : Untried) :
    (m.keep c goal k left u).choices.height ≤ m.choices.height + 1 := by
  unfold keep
  split
  · exact Nat.le_refl _
  · exact Nat.le_succ _

theorem steps_keep (m : Machine σ) (c : Choice) (goal : Call) (k : Nat) (left : Bool) (u : Untried) :
    (m.keep c goal k left u).steps = m.steps := by
  unfold keep
  split <;> rfl

theorem rank_proceed {success : Bool} {after : List Frame} {c : Control} (h : Outcome.proceed success after = .more c) :
    c.rank ≤ 2 := by
  unfold Outcome.proceed at h
  cases h
  cases success
  · exact Nat.le_refl 2
  · exact Nat.zero_le 2

theorem Executes.pace {e : Engine σ} {m m' : Machine σ} {act : Activation} {after : List Frame} {g : Goal Callee}
    {o : Outcome} (h : Executes e m act after g o m') :
    m'.steps = m.steps ∧ m'.choices.height ≤ m.choices.height + 1 ∧ ∀ c, o = .more c → c.rank ≤ 2 := by
  cases h with
  | fault g cause => exact ⟨rfl, Nat.le_succ _, fun c h => by cases h⟩
  | cut => exact ⟨rfl, Nat.le_succ_of_le (height_cut_le m _ _), fun c h => by cases h; simp [Control.rank]⟩
  | not g => exact ⟨rfl, Nat.le_refl _, fun c h => by cases h; simp [Control.rank]⟩
  | offer _ _ => exact ⟨rfl, Nat.le_refl _, fun c h => by cases h; simp [Control.rank]⟩
  | _ => exact ⟨rfl, Nat.le_succ _, fun c h => rank_proceed h⟩

theorem Resumes.pace {m m' : Machine σ} {c : Choice} {o : Outcome} (h : Resumes m c o m') :
    m'.steps = m.steps ∧ ∀ c', o = .more c' → 2 * m'.choices.height + c'.rank ≤ 2 * m.choices.height + 3 := by
  have hgive : ∀ (k : Nat) (tried : Bool) (b : Bindings),
      (((m.retry k tried).withBindings b).onTree (·.detach k)).choices.height = m.choices.height := by
    intro k tried b
    rw [← choices_retry m k tried]
    rfl
  have hkeep : ∀ (k : Nat) (tried : Bool) (b : Bindings) (goal : Call) (left : Bool) (u : Untried),
      (((m.retry k tried).withBindings b).keep c goal k left u).choices.height ≤ m.choices.height + 1 := by
    intro k tried b goal left u
    rw [← choices_retry m k tried]
    exact height_keep_le _ c goal k left u
  cases h with
  | negation h => exact ⟨rfl, fun c' e => by cases e; simp only [Control.rank]; omega⟩
  | @noClause goal k owner tried clauses b h hf =>
    exact ⟨steps_retry m k tried, fun c' e => by cases e; rw [hgive]; simp only [Control.rank]; omega⟩
  | @clause goal k owner base tried clauses rest cl b h hf =>
    refine ⟨(steps_keep _ c goal k _ _).trans (steps_retry m k tried), fun c' e => ?_⟩
    cases e
    have := hkeep k tried b goal (!rest.isEmpty) (.clauses owner rest)
    simp only [Control.rank]
    omega
  | @noFact goal k tried facts b h hf =>
    exact ⟨steps_retry m k tried, fun c' e => by cases e; rw [hgive]; simp only [Control.rank]; omega⟩
  | @fact goal k tried facts rest b h hf =>
    refine ⟨(steps_keep _ c goal k _ _).trans (steps_retry m k tried), fun c' e => ?_⟩
    cases e
    have := hkeep k tried b goal (!rest.isEmpty) (.facts rest)
    simp only [Control.rank]
    omega
  | @answers goal args k asked tried p h =>
    refine ⟨steps_retry m k tried, fun c' e => ?_⟩
    cases e
    rw [choices_retry]
    exact Nat.le_refl _

theorem height_of_pop {α : Type} {s t : Stack α} {a : α} (h : s.pop? = some (a, t)) : s.height = t.height + 1 := by
  rcases s with ⟨_ | ⟨b, l⟩, n, e⟩
  · cases h
  · simp only [Stack.pop?, Option.some.injEq, Prod.mk.injEq] at h
    obtain ⟨-, rfl⟩ := h
    simp only [List.length_cons] at e ⊢
    omega

/-- **Every transition lowers what remains.** -/
theorem remaining_lt {e : Engine σ} {m m' : Machine σ} {c c' : Control} (h : Moves e m c (.more c') m') :
    remaining e m' c' < remaining e m c := by
  have htick : ∀ {m₁ : Machine σ} {c₁ : Control}, (m.tick e.options).1 = none →
      m₁.steps = m.steps + 1 → m₁.choices.height ≤ m.choices.height + 1 → c₁.rank ≤ 2 →
      remaining e m₁ c₁ < remaining e m c := by
    intro m₁ c₁ ht hs hh hr
    have := lt_of_tick ht
    unfold remaining
    omega
  cases h with
  | exit ht => exact htick ht rfl (Nat.le_succ _) (Nat.zero_le _)
  | @negated height fs ht =>
    exact htick ht rfl (Nat.le_succ_of_le (height_cut_le m.ticked height none)) (Nat.le_refl _)
  | bodyEnd ht => exact htick ht rfl (Nat.le_succ _) (Nat.zero_le _)
  | goal ht hx =>
    obtain ⟨hs, hh, hr⟩ := hx.pace
    rw [steps_record] at hs
    rw [choices_record] at hh
    exact htick ht hs hh (hr c' rfl)
  | back hp hr =>
    obtain ⟨hs, hc⟩ := hr.pace
    have hpop := height_of_pop hp
    have hc := hc c' rfl
    have hs : m'.steps = m.steps := hs
    simp only [rewind] at hc
    unfold remaining
    rw [hs]
    simp only [Control.rank] at hc ⊢
    omega
  | noAnswer ha =>
    unfold remaining
    simp only [Control.rank, onTree, heard]
    omega
  | answer ha hu =>
    unfold remaining
    simp only [Control.rank, push, Stack.push, withBindings, heard]
    omega
  | @misfit i a w s ha hu ht =>
    have hlt := lt_of_tick ht
    unfold remaining
    simp only [Control.rank, ticked, withBindings, heard] at hlt ⊢
    omega

theorem remaining_step {e : Engine σ} {m m' : Machine σ} {c c' : Control} (h : step e m c = (.more c', m')) :
    remaining e m' c' < remaining e m c := remaining_lt (moves_of_step h)

theorem runFor_congr (e : Engine σ) : ∀ (n k : Nat) (m : Machine σ) (c : Control),
    remaining e m c < n → remaining e m c < k → runFor e n m c = runFor e k m c
  | 0, _, _, _, hn, _ => absurd hn (Nat.not_lt_zero _)
  | _ + 1, 0, _, _, _, hk => absurd hk (Nat.not_lt_zero _)
  | n + 1, k + 1, m, c, hn, hk => by
    unfold runFor
    split
    · rename_i c' m' hs
      have := remaining_step hs
      exact runFor_congr e n k m' c' (by omega) (by omega)
    · rfl
    · rfl
    · rfl

theorem remaining_lt_enough (e : Engine σ) (m : Machine σ) (c : Control) : remaining e m c < enough e m := by
  have hr : c.rank ≤ 3 := by cases c <;> simp [Control.rank]
  unfold remaining enough
  omega

/-- **A search is its first transition and the search from there.** -/
theorem run_eq (e : Engine σ) (m : Machine σ) (c : Control) :
    run e m c = match step e m c with
      | (.more c', m') => run e m' c'
      | (.solved, m') => (.ok true, m')
      | (.exhausted, m') => (.ok false, m')
      | (.failed cause, m') => (.error cause, m') := by
  have h := remaining_lt_enough e m c
  unfold run
  rw [runFor_congr e (enough e m) (remaining e m c + 1) m c h (Nat.lt_succ_self _), runFor]
  rcases hs : step e m c with ⟨c' | _ | _ | cause, m'⟩
  · exact runFor_congr e _ _ m' c' (remaining_step hs) (remaining_lt_enough e m' c')
  · rfl
  · rfl
  · rfl

/-- **How a search ends**: in a solution, without one, or in a failure. -/
inductive Ends (e : Engine σ) (m : Machine σ) (c : Control) : Except QueryError Bool × Machine σ → Prop
  | solved {m' : Machine σ} (h : step e m c = (.solved, m')) : Ends e m c (.ok true, m')
  | exhausted {m' : Machine σ} (h : step e m c = (.exhausted, m')) : Ends e m c (.ok false, m')
  | failed {m' : Machine σ} {cause : QueryError} (h : step e m c = (.failed cause, m')) : Ends e m c (.error cause, m')

/-- **What every transition keeps holds where the search ends.** -/
theorem run_ends {e : Engine σ} {P : Control → Machine σ → Prop}
    (hstep : ∀ c m c' m', P c m → step e m c = (.more c', m') → P c' m') (c : Control) (m : Machine σ) (h : P c m) :
    ∃ c₁ m₁, P c₁ m₁ ∧ Ends e m₁ c₁ (run e m c) := by
  induction hn : remaining e m c using Nat.strongRecOn generalizing c m with
  | ind n ih =>
    rw [run_eq]
    split
    · rename_i c' m' hs
      have hlt := remaining_step hs
      exact ih _ (hn ▸ hlt) c' m' (hstep c m c' m' h hs) rfl
    · rename_i m' hs
      exact ⟨c, m, h, .solved hs⟩
    · rename_i m' hs
      exact ⟨c, m, h, .exhausted hs⟩
    · rename_i cause m' hs
      exact ⟨c, m, h, .failed hs⟩

end Machine

end Remedy.Query
