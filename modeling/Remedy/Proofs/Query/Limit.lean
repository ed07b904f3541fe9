import Remedy.Proofs.Query.Cutoff
import Remedy.Proofs.Query.Slots
import Remedy.Proofs.Query.Turns
/-!
# Proofs.Query.Limit — what the limit of steps bounds

Over the whole life of a query every step that it executes has been counted, and every context and every choice has come
with a step (`Frugal.search`).  So the limit bounds the steps, the contexts and the height of the stack, and with these
the transitions of every call (`Frugal.arrives`).  A call that needs more steps than are left tells of the limit: under
a higher limit it would have come further (`steps_limited`).
-/
namespace Remedy.Query

open Context (Forest)
open Machine (Arrives executed made)

variable {σ : Type} {e : Engine σ} {m m' : Machine σ} {c : Control} {o : Outcome}
  {others : σ → Session → σ → Session → Prop}

/-- **What the life of a query has spent**: the steps that have been executed and the contexts that its searches have
made. -/
inductive Spends (e : Engine σ) (others : σ → Session → σ → Session → Prop) (a : Moment σ) :
    Nat → Nat → Moment σ → Prop
  | none : Spends e others a 0 0 a
  | wait {n k : Nat} {q : Query} {w : σ} {s : Session} {b : Moment σ} (h : Spends e others a n k (.rest q w s))
    (hp : Passes e others (.rest q w s) b) : Spends e others a n k b
  | search {n k : Nat} {q : Query} {c : Control} {m m' : Machine σ} {o : Outcome} {b : Moment σ}
    (h : Spends e others a n k (.search q c m)) (hs : m.step e c = (o, m')) (hp : Passes e others (.search q c m) b) :
    Spends e others a (n + executed e m c o) (k + made m m') b

variable {a b : Moment σ} {n k : Nat} {q : Query} {w : σ} {s : Session}

theorem Comes.spends (h : Comes e others a b) : ∃ n k, Spends e others a n k b := by
  induction h with
  | refl => exact ⟨0, 0, .none⟩
  | @step b d h hp ih =>
    obtain ⟨n, k, hspends⟩ := ih
    cases b with
    | rest q w s => exact ⟨n, k, hspends.wait hp⟩
    | search q c m => exact ⟨_, _, hspends.search rfl hp⟩
def Moment.Going : Moment σ → Prop
  | .rest q _ _ => q.status ≠ .ended
  | .search _ _ _ => True

/-- **A query that keeps within its limit**: every step that it has executed has been counted, every context that it has
made and every choice that it has has come with a step. -/
structure Frugal (e : Engine σ) (n : Nat) (b : Moment σ) : Prop where
  counted : n ≤ b.machine.steps
  allowed : n ≤ e.options.maxSteps
  steps : b.machine.steps ≤ e.options.maxSteps + 1
  going : b.Going → b.machine.steps ≤ e.options.maxSteps ∧
    b.machine.choices.height + b.control.waits ≤ b.machine.steps

theorem not_going_finish (q : Query) (m : Machine σ) : ¬ (Moment.after (q.finish m)).Going := by
  have hended : (q.finish m).1.status = .ended := by unfold finish; dsimp only
  exact fun h => h hended

theorem after_close (hq : q.status ≠ .ended) (w : σ) (s : Session) :
    Moment.rest (q.close s).1 w (q.close s).2 = .after (q.finish (q.machine w s)) := by
  unfold Query.close
  split
  · rename_i h
    exact absurd h hq
  · rfl

theorem waits_rest (q : Query) (w : σ) (s : Session) : (Moment.rest q w s).control.waits = 0 := by
  unfold Moment.control
  simp only
  split <;> rfl

theorem Frugal.finish {m : Machine σ} (hn : n ≤ m.steps) (ha : n ≤ e.options.maxSteps)
    (hs : m.steps ≤ e.options.maxSteps + 1) (q : Query) : Frugal e n (.after (q.finish m)) := by
  refine ⟨?_, ha, ?_, fun hg => absurd hg (not_going_finish q m)⟩
  · rw [steps_finish]
    exact hn
  · rw [steps_finish]
    exact hs

/-- **What happens while a query waits** changes nothing about it. -/
theorem Frugal.wait (h : Frugal e n (.rest q w s)) (hp : Passes e others (.rest q w s) b) : Frugal e n b := by
  have hbegin : q.status ≠ .ended → ∀ c : Control, c.waits = 0 → Frugal e n (.search q c (q.machine w s)) := by
    intro hq c hc
    obtain ⟨hsteps, hheight⟩ := h.going hq
    rw [waits_rest, ← hc] at hheight
    exact ⟨h.counted, h.allowed, h.steps, fun _ => ⟨hsteps, hheight⟩⟩
  cases hp with
  | begin hq => exact hbegin (by rw [hq]; exact fun he => nomatch he) _ rfl
  | again hq => exact hbegin (by rw [hq]; exact fun he => nomatch he) _ rfl
  | close =>
    by_cases hq : q.status = .ended
    · have hsame : q.close s = (q, s) := by unfold Query.close; rw [hq]
      rw [hsame]
      exact h
    · rw [after_close hq]
      exact .finish h.counted h.allowed h.steps q
  | other ho => exact ⟨h.counted, h.allowed, h.steps, h.going⟩

/-- **A transition** pays for what it does. -/
theorem Frugal.search (h : Frugal e n (.search q c m)) (hs : m.step e c = (o, m'))
    (hp : Passes e others (.search q c m) b) : Frugal e (n + executed e m c o) b := by
  have hpays := Machine.pays_moves (Machine.moves_of_step hs)
  obtain ⟨hsteps, hheight⟩ := h.going trivial
  have hcounted : n ≤ m.steps := h.counted
  have hsteps : m.steps ≤ e.options.maxSteps := hsteps
  have hallowed : n + executed e m c o ≤ e.options.maxSteps := by
    rcases hpays.allowed with hx | hx
    · rw [hx]
      exact h.allowed
    · have := hpays.counted
      omega
  have hall : n + executed e m c o ≤ m'.steps := Nat.le_trans (Nat.add_le_add_right hcounted _) hpays.counted
  have hmost : m'.steps ≤ e.options.maxSteps + 1 := Nat.le_trans hpays.single (Nat.succ_le_succ hsteps)
  -- while nothing fails, what is counted has been executed
  have hwithin : (∀ cause, o ≠ .failed cause) → m'.steps ≤ e.options.maxSteps := by
    intro hne
    have hon := hpays.onward hne
    rcases hpays.allowed with hx | hx
    · omega
    · exact hx
  cases hp with
  | @move _ c₁ c' _ m₁ hm =>
    rw [hs] at hm
    cases hm
    have hstack := hpays.stack c' rfl
    have hon := hpays.onward fun _ he => nomatch he
    have hheight : m.choices.height + c.waits ≤ m.steps := hheight
    have hend : m'.choices.height + c'.waits ≤ m'.steps := by omega
    exact ⟨hall, hallowed, hmost, fun _ => ⟨hwithin (fun _ he => nomatch he), hend⟩⟩
  | solved hm =>
    rw [hs] at hm
    cases hm
    have hle := hwithin fun _ he => nomatch he
    obtain ⟨rfl, rfl⟩ := run_nil_of_solved hs
    have hnone := waits_rest (q.yieldedAt m') m'.world m'.session
    refine ⟨hall, hallowed, hmost, fun _ => ⟨hle, ?_⟩⟩
    rw [hnone]
    exact hheight
  | exhausted hm =>
    rw [hs] at hm
    cases hm
    exact .finish hall hallowed hmost q
  | failed hm =>
    rw [hs] at hm
    cases hm
    exact .finish (m := m'.rewind q.origin) hall hallowed hmost q

theorem Spends.frugal (ha : Frugal e 0 a) (h : Spends e others a n k b) : Frugal e n b := by
  induction h with
  | none => exact ha
  | wait _ hp ih => exact ih.wait hp
  | search _ hs hp ih => exact ih.search hs hp

/-- **The contexts that searches make are paid for by steps**, if the application makes none. -/
theorem Spends.contexts_le (hh : e.host.MakesNone) (h : Spends e others a n k b) : k ≤ n := by
  induction h with
  | none => exact Nat.le_refl 0
  | wait _ _ ih => exact ih
  | search _ hs _ ih =>
    have hmade := Machine.made_le hh (Machine.moves_of_step hs)
    omega

theorem size_finish (q : Query) (m : Machine σ) :
    (Moment.after (q.finish m)).machine.forest.size = m.forest.size := by
  rw [forest_finish, Forest.size_setStable, Forest.size_clear]
  exact Machine.size_cut m 0 none

/-- **All contexts that there are** have been there or have been made by the searches, if nobody else makes any. -/
theorem Spends.size_le (ho : ∀ w s w' s', others w s w' s' → s'.tree.forest.size = s.tree.forest.size)
    (h : Spends e others a n k b) : b.machine.forest.size ≤ a.machine.forest.size + k := by
  induction h with
  | none => exact Nat.le_refl _
  | @wait n k q w s b _ hp ih =>
    cases hp with
    | begin hq => exact ih
    | again hq => exact ih
    | close =>
      by_cases hq : q.status = .ended
      · have hsame : q.close s = (q, s) := by unfold Query.close; rw [hq]
        rw [hsame]
        exact ih
      · rw [after_close hq, size_finish]
        exact ih
    | other hw => exact Nat.le_trans (Nat.le_of_eq (ho _ _ _ _ hw)) ih
  | @search n k q c m m' o b _ hs hp ih =>
    have hend : m'.forest.size ≤ a.machine.forest.size + (k + made m m') := by
      have ih : m.forest.size ≤ a.machine.forest.size + k := ih
      unfold made
      omega
    cases hp with
    | move hm =>
      rw [hs] at hm
      cases hm
      exact hend
    | solved hm =>
      rw [hs] at hm
      cases hm
      exact hend
    | exhausted hm =>
      rw [hs] at hm
      cases hm
      rw [size_finish]
      exact hend
    | failed hm =>
      rw [hs] at hm
      cases hm
      rw [size_finish]
      exact hend

/-- **What the limit of steps bounds** in the life of a query: the steps that it counts and those that it executes, the
contexts that it makes, and the transitions of every call; and a call that needs more steps than are left tells of the
limit. -/
structure Limited (e : Engine σ) (others : σ → Session → σ → Session → Prop) (a : Moment σ) : Prop where
  steps : ∀ b, Comes e others a b → b.machine.steps ≤ e.options.maxSteps + 1
  executed : ∀ n k b, Spends e others a n k b → n ≤ e.options.maxSteps
  contexts : e.host.MakesNone → ∀ n k b, Spends e others a n k b → k ≤ e.options.maxSteps
  size : e.host.MakesNone → (∀ w s w' s', others w s w' s' → s'.tree.forest.size = s.tree.forest.size) →
    ∀ b, Comes e others a b → b.machine.forest.size ≤ a.machine.forest.size + e.options.maxSteps
  ends : ∀ q w s, Comes e others a (.rest q w s) → q.status ≠ .ended →
    ∃ c n, n ≤ 5 * e.options.maxSteps + 7 ∧ Arrives e n (q.machine w s) c ((q.machine w s).run e c) ∧
      q.next e w s = q.goOn e (q.machine w s) c
  exceeded : ∀ q w s, Comes e others a (.rest q w s) → q.status ≠ .ended → ∀ n, e.options.maxSteps ≤ n →
    e.options.maxSteps < (q.next (e.withLimit n) w s).2.1.steps →
      (q.next e w s).1 = .error (.stepLimit e.options.maxSteps)

theorem frugal_entry (e : Engine σ) (owner : Nat) (goal : Call) (vars : VarTable) (g : Goal Callee) (w : σ)
    (s : Session) : Frugal e 0 (.rest (entryQuery owner goal vars g) w s) :=
  ⟨Nat.zero_le _, Nat.zero_le _, Nat.zero_le _, fun _ => ⟨Nat.zero_le _, Nat.le_refl 0⟩⟩

/-- **A call makes its transitions within a bound**, as every choice has been paid for by a step. -/
theorem Frugal.arrives (h : Frugal e n (.rest q w s)) (hq : q.status ≠ .ended) {c : Control} (hc : c.rank ≤ 2) :
    ∃ n, n ≤ 5 * e.options.maxSteps + 7 ∧ Arrives e n (q.machine w s) c ((q.machine w s).run e c) := by
  obtain ⟨hsteps, hheight⟩ := h.going hq
  obtain ⟨n, hn, ha⟩ := Machine.run_arrives e (q.machine w s) c
  refine ⟨n, ?_, ha⟩
  have hsteps : (q.machine w s).steps ≤ e.options.maxSteps := hsteps
  have hheight : (q.machine w s).choices.height ≤ (q.machine w s).steps := Nat.le_of_add_right_le hheight
  unfold Machine.remaining at hn
  omega

/-- **The limit of steps bounds every query**, whatever the modules, the goal, the application and others do. -/
theorem steps_limited (e : Engine σ) (others : σ → Session → σ → Session → Prop) {l : Library} {owner : Nat}
    {goal : Call} {vars : VarTable} {q : Query} (hq : ofGoal l owner goal vars = .ok q) (w : σ) (s : Session) :
    Limited e others (.rest q w s) := by
  obtain ⟨md, g, -, -, rfl⟩ := ofGoal_eq_ok.1 hq
  have hentry := frugal_entry e owner goal vars g w s
  have hfrugal : ∀ {b : Moment σ}, Comes e others (.rest (entryQuery owner goal vars g) w s) b →
      ∃ n, Frugal e n b := by
    intro b hb
    obtain ⟨n, k, hspends⟩ := hb.spends
    exact ⟨n, hspends.frugal hentry⟩
  refine ⟨fun b hb => ?_, fun n k b hb => (hb.frugal hentry).allowed, fun hh n k b hb => ?_, fun hh ho b hb => ?_,
    fun q w s hb hopen => ?_, fun q w s hb hopen n hn hlt => ?_⟩
  · obtain ⟨n, h⟩ := hfrugal hb
    exact h.steps
  · exact Nat.le_trans (hb.contexts_le hh) (hb.frugal hentry).allowed
  · obtain ⟨n, k, hspends⟩ := hb.spends
    have hk := Nat.le_trans (hspends.contexts_le hh) (hspends.frugal hentry).allowed
    exact Nat.le_trans (hspends.size_le ho) (Nat.add_le_add_left hk _)
  · obtain ⟨n, h⟩ := hfrugal hb
    unfold next
    cases hstatus : q.status with
    | ended => exact absurd hstatus hopen
    | fresh frames =>
      obtain ⟨n, hn, ha⟩ := h.arrives hopen (c := .run frames) (Nat.zero_le 2)
      exact ⟨.run frames, n, hn, ha, rfl⟩
    | yielded =>
      obtain ⟨n, hn, ha⟩ := h.arrives hopen (c := .backtrack) (Nat.le_refl 2)
      exact ⟨.backtrack, n, hn, ha, rfl⟩
  · obtain ⟨k, h⟩ := hfrugal hb
    have hsteps := (h.going hopen).1
    rcases next_withLimit (e := e) hn hsteps w s with ⟨hle, -⟩ | ⟨-, hstop⟩
    · exact absurd hlt (Nat.not_lt.2 hle)
    · exact hstop

/-! ## Rules that never end -/

def endless : RuleModule :=
  (RuleModule.compile ⟨[]⟩ "endless" .none (RuleText.numbered ["loop :- loop"])).toOption.getD
    ⟨"", [], [], .none⟩

def endlessEngine : Engine Unit := ⟨⟨[endless]⟩, .silent, { Options.standard with maxSteps := 10 }⟩

def endlessQuery : Query :=
  (ofGoal ⟨[endless]⟩ 0 ⟨"loop", []⟩ .empty).toOption.getD ⟨[], ⟨0, 0⟩, .ended, .empty, .empty, 0⟩

theorem ofGoal_endless : ofGoal endlessEngine.library 0 ⟨"loop", []⟩ .empty = .ok endlessQuery := by
  have hok : (ofGoal ⟨[endless]⟩ 0 ⟨"loop", []⟩ .empty).isOk = true := by decide +kernel
  exact eq_ok_of_isOk hok _

/-- Under a limit of ten steps the query tells of the limit: under a higher limit it would need more. -/
theorem steps_limited_endless :
    ofGoal endlessEngine.library 0 ⟨"loop", []⟩ .empty = .ok endlessQuery ∧ endlessEngine.host.MakesNone ∧
      Limited endlessEngine (fun _ _ _ _ => False) (.rest endlessQuery () Session.new) ∧
        10 < (endlessQuery.next (endlessEngine.withLimit 12) () Session.new).2.1.steps ∧
          (endlessQuery.next endlessEngine () Session.new).1 = .error (.stepLimit 10) := by
  have hlimited := steps_limited endlessEngine (fun _ _ _ _ => False) ofGoal_endless () Session.new
  have hmore : 10 < (endlessQuery.next (endlessEngine.withLimit 12) () Session.new).2.1.steps := by decide +kernel
  have hfresh : endlessQuery.status ≠ .ended := by
    obtain ⟨md, g, -, -, hq⟩ := ofGoal_eq_ok.1 ofGoal_endless
    rw [hq]
    exact fun h => nomatch h
  have hstop := hlimited.exceeded _ _ _ .refl hfresh 12 (by decide) hmore
  exact ⟨ofGoal_endless, fun _ _ _ _ _ => rfl, hlimited, hmore, hstop⟩

end Remedy.Query
