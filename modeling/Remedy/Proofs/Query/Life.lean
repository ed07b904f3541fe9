import Remedy.Proofs.Query.Contexts
import Remedy.Proofs.Query.Pace
/-!
# Proofs.Query.Life — the life of a query, one moment after the other

A query waits, is asked for its next solution, searches one transition after the other, and waits again; while it
waits it may be closed, and others may change the world and the session.  `Passes` is one such change, `Comes` any
number of them.  All that a call of `next` does is a way through these moments (`comes_next`), so what every change
keeps holds in the middle of every search and after every call.
-/
namespace Remedy.Query

open Context.Forest (Tended)

variable {σ : Type}

/-- The bindings in which an entry goal is run: its variables stand for nothing. -/
def entryBindings (goal : Call) (vars : VarTable) : Bindings := (Bindings.empty.allocate (max vars.size goal.span)).2

def entryQuery (owner : Nat) (goal : Call) (vars : VarTable) (g : Goal Callee) : Query :=
  ⟨firstNames (Term.namedOf goal.args), (entryBindings goal vars).checkpoint, .fresh [.body ⟨owner, vars, 0, 0, 0⟩ [g]],
    entryBindings goal vars, .empty, 0⟩

/-- **A query is made for the goal as it is resolved on behalf of the module.** -/
theorem ofGoal_eq_ok {l : Library} {owner : Nat} {goal : Call} {vars : VarTable} {q : Query} :
    ofGoal l owner goal vars = .ok q ↔
      ∃ md g, l.module? owner = some md ∧ md.resolveGoal l goal = .ok g ∧ q = entryQuery owner goal vars g := by
  unfold ofGoal
  cases hm : l.module? owner with
  | none =>
    exact ⟨(fun h => nomatch h), fun ⟨md, g, hmd, _⟩ => nomatch hmd⟩
  | some md =>
    simp only
    cases hg : md.resolveGoal l goal with
    | error cause =>
      refine ⟨(fun h => nomatch h), fun ⟨md', g, hmd, hg', _⟩ => ?_⟩
      cases hmd
      rw [hg] at hg'
      cases hg'
    | ok g =>
      refine ⟨fun h => ⟨md, g, rfl, hg, (Except.ok.inj h).symm⟩, fun ⟨md', g', hmd, hg', hq⟩ => ?_⟩
      cases hmd
      rw [hg] at hg'
      cases hg'
      rw [hq]
      rfl

def yieldedAt (q : Query) (m : Machine σ) : Query :=
  { q with status := .yielded, bindings := m.bindings, choices := m.choices, steps := m.steps }

/-- **A moment in the life of a query**: it waits, or it searches. -/
inductive Moment (σ : Type)
  | rest (q : Query) (world : σ) (session : Session)
  | search (q : Query) (c : Control) (m : Machine σ)

def Moment.after (r : Query × σ × Session) : Moment σ := .rest r.1 r.2.1 r.2.2

/-- **What happens next** in the life of a query, `others` being what others may do while it waits. -/
inductive Passes (e : Engine σ) (others : σ → Session → σ → Session → Prop) : Moment σ → Moment σ → Prop
  | begin {q : Query} {w : σ} {s : Session} {frames : List Frame} (h : q.status = .fresh frames) :
    Passes e others (.rest q w s) (.search q (.run frames) (q.machine w s))
  | again {q : Query} {w : σ} {s : Session} (h : q.status = .yielded) :
    Passes e others (.rest q w s) (.search q .backtrack (q.machine w s))
  | move {q : Query} {c c' : Control} {m m' : Machine σ} (h : m.step e c = (.more c', m')) :
    Passes e others (.search q c m) (.search q c' m')
  | solved {q : Query} {c : Control} {m m' : Machine σ} (h : m.step e c = (.solved, m')) :
    Passes e others (.search q c m) (.rest (q.yieldedAt m') m'.world m'.session)
  | exhausted {q : Query} {c : Control} {m m' : Machine σ} (h : m.step e c = (.exhausted, m')) :
    Passes e others (.search q c m) (.after (q.finish m'))
  | failed {q : Query} {c : Control} {m m' : Machine σ} {cause : QueryError} (h : m.step e c = (.failed cause, m')) :
    Passes e others (.search q c m) (.after (q.finish (m'.rewind q.origin)))
  | close {q : Query} {w : σ} {s : Session} : Passes e others (.rest q w s) (.rest (q.close s).1 w (q.close s).2)
  | other {q : Query} {w w' : σ} {s s' : Session} (h : others w s w' s') :
    Passes e others (.rest q w s) (.rest q w' s')

/-- **What comes at some time** in the life of a query. -/
inductive Comes (e : Engine σ) (others : σ → Session → σ → Session → Prop) (a : Moment σ) : Moment σ → Prop
  | refl : Comes e others a a
  | step {b c : Moment σ} (h : Comes e others a b) (hp : Passes e others b c) : Comes e others a c

variable {e : Engine σ} {others : σ → Session → σ → Session → Prop}

theorem Comes.trans {a b c : Moment σ} (h : Comes e others a b) (h' : Comes e others b c) : Comes e others a c := by
  induction h' with
  | refl => exact h
  | step _ hp ih => exact ih.step hp

/-- **What every change keeps holds at all times.** -/
theorem Comes.keeps {P : Moment σ → Prop} (hstep : ∀ a b, P a → Passes e others a b → P b) {a b : Moment σ}
    (h : Comes e others a b) (ha : P a) : P b := by
  induction h with
  | refl => exact ha
  | step _ hp ih => exact hstep _ _ ih hp

def Machine.after? (e : Engine σ) : Nat → Control → Machine σ → Option (Control × Machine σ)
  | 0, c, m => some (c, m)
  | i + 1, c, m =>
    match m.step e c with
    | (.more c', m') => after? e i c' m'
    | _ => none

theorem comes_after? (q : Query) : ∀ (i : Nat) (c : Control) (m : Machine σ) {c' : Control} {m' : Machine σ},
    m.after? e i c = some (c', m') → Comes e others (.search q c m) (.search q c' m')
  | 0, c, m, c', m', h => by
    cases h
    exact .refl
  | i + 1, c, m, c', m', h => by
    unfold Machine.after? at h
    split at h
    · rename_i c₁ m₁ hs
      exact (Comes.refl.step (.move hs)).trans (comes_after? q i c₁ m₁ h)
    · cases h

theorem comes_run (others : σ → Session → σ → Session → Prop) (q : Query) (c : Control) (m : Machine σ) :
    ∃ c₁ m₁, Comes e others (.search q c m) (.search q c₁ m₁) ∧ Machine.Ends e m₁ c₁ (m.run e c) := by
  have hstep : ∀ c₁ m₁ c₂ m₂, Comes e others (.search q c m) (.search q c₁ m₁) → Machine.step e m₁ c₁ = (.more c₂, m₂) →
      Comes e others (.search q c m) (.search q c₂ m₂) := fun _ _ _ _ h hs => h.step (.move hs)
  exact Machine.run_ends hstep c m .refl

theorem comes_goOn (q : Query) (c : Control) (m : Machine σ) :
    Comes e others (.search q c m) (.after (q.goOn e m c).2) := by
  obtain ⟨c₁, m₁, hc, hends⟩ := comes_run others q c m
  unfold goOn
  generalize Machine.run e m c = r at hends
  cases hends with
  | solved h => exact hc.step (.solved h)
  | exhausted h => exact hc.step (.exhausted h)
  | failed h => exact hc.step (.failed h)

theorem solved_of_goOn (others : σ → Session → σ → Session → Prop) {q : Query} {c : Control} {m : Machine σ}
    {found : Solution} (h : (q.goOn e m c).1 = .ok (some found)) : ∃ c₁ m₁ m', Comes e others (.search q c m) (.search q c₁ m₁) ∧
      m₁.step e c₁ = (.solved, m') ∧ (q.goOn e m c).2 = (q.yieldedAt m', m'.world, m'.session) := by
  obtain ⟨c₁, m₁, hc, hends⟩ := comes_run others q c m
  unfold goOn at h ⊢
  generalize Machine.run e m c = r at hends h
  cases hends with
  | solved hs => exact ⟨c₁, m₁, _, hc, hs, rfl⟩
  | exhausted hs => cases h
  | failed hs => cases h

theorem next_ended (e : Engine σ) {q : Query} (hq : q.status = .ended) (w : σ) (s : Session) :
    q.next e w s = (.ok none, q, w, s) := by
  unfold next
  rw [hq]

theorem close_ended {q : Query} (hq : q.status = .ended) (s : Session) : q.close s = (q, s) := by
  unfold close
  rw [hq]

/-- **A call for the next solution is part of the life of a query.** -/
theorem comes_next (e : Engine σ) (others : σ → Session → σ → Session → Prop) (q : Query) (w : σ) (s : Session) :
    Comes e others (.rest q w s) (.after (q.next e w s).2) := by
  unfold next
  split
  · exact .refl
  · rename_i frames h
    exact (Comes.refl.step (.begin h)).trans (comes_goOn q _ _)
  · rename_i h
    exact (Comes.refl.step (.again h)).trans (comes_goOn q _ _)

/-- **A call that gives a solution** has searched until it came to one. -/
theorem solved_of_next (others : σ → Session → σ → Session → Prop) {q : Query} {w : σ} {s : Session} {found : Solution}
    (h : (q.next e w s).1 = .ok (some found)) : ∃ c m m', Comes e others (.rest q w s) (.search q c m) ∧
      m.step e c = (.solved, m') ∧ (q.next e w s).2 = (q.yieldedAt m', m'.world, m'.session) := by
  unfold next at h ⊢
  split at h
  · cases h
  · rename_i frames hq
    obtain ⟨c, m, m', hc, hs, hend⟩ := solved_of_goOn others h
    exact ⟨c, m, m', (Comes.refl.step (.begin hq)).trans hc, hs, hend⟩
  · rename_i hq
    obtain ⟨c, m, m', hc, hs, hend⟩ := solved_of_goOn others h
    exact ⟨c, m, m', (Comes.refl.step (.again hq)).trans hc, hs, hend⟩

/-- What is being run at a moment; a query that waits will run it when it is asked again. -/
def Moment.control : Moment σ → Control
  | .rest q _ _ =>
    match q.status with
    | .fresh frames => .run frames
    | _ => .backtrack
  | .search _ c _ => c

def Moment.machine : Moment σ → Machine σ
  | .rest q w s => q.machine w s
  | .search _ _ m => m

def Moment.query : Moment σ → Query
  | .rest q _ _ => q
  | .search q _ _ => q

/-- **The goal that the next transition runs**, and its rule; none if the search is stopped before it or does something
else. -/
def Control.running (e : Engine σ) (m : Machine σ) : Control → Option (Activation × Goal Callee)
  | .run (.body act (g :: _) :: _) => if (m.tick e.options).1.isNone then some (act, g) else none
  | _ => none

/-! ## A query that ends -/

theorem machine_finish (q : Query) (m : Machine σ) :
    (Moment.after (q.finish m)).machine = m.release.onTree fun t => (t.clear 0).setStable 0 true := by
  unfold finish
  dsimp only
  generalize (m.release.onTree fun t => (t.clear 0).setStable 0 true) = m'
  rfl

theorem control_finish (q : Query) (m : Machine σ) : (Moment.after (q.finish m)).control = .backtrack := by
  unfold finish
  dsimp only
  generalize (m.release.onTree fun t => (t.clear 0).setStable 0 true) = m'
  rfl

theorem items_release (m : Machine σ) : m.release.choices.items = [] := by
  have h : m.release.choices.items = m.choices.items.drop (m.choices.height - 0) := rfl
  rw [h, Nat.sub_zero, ← m.choices.height_eq, List.drop_length]

/-- **A query that ends** takes its contexts away. -/
theorem forest_finish (q : Query) (m : Machine σ) : (Moment.after (q.finish m)).machine.forest =
    ((m.release.forest.clear 0).1.setStable 0 true).1 := by
  rw [machine_finish]
  have hs := Context.Tree.forest_change (m.release.session.tree.clear 0) (·.setStable 0 true)
  have hc : (m.release.session.tree.clear 0).forest = (m.release.forest.clear 0).1 := Context.Tree.forest_change _ _
  rw [hc] at hs
  exact hs

theorem tended_finish (q : Query) (m : Machine σ) : Tended m.forest (Moment.after (q.finish m)).machine.forest := by
  rw [forest_finish]
  exact .setStable (.clear (Machine.tended_cut m 0 none) 0) 0 true

/-- **What tending the contexts keeps, and the application keeps, is kept by every transition.** -/
theorem keeps_forest_of_step {P : Context.Forest → Prop} (hP : ∀ {f g}, Tended f g → P f → P g)
    (hh : ∀ w s p args n, P s.tree.forest → P (e.host.ask w s p args n).session.tree.forest) {c : Control}
    {m m' : Machine σ} {o : Outcome} (hs : m.step e c = (o, m')) (hm : P m.forest) : P m'.forest := by
  have hreply : ∀ i, P (m.reply e i).2.2.tree.forest := by
    intro i
    unfold Machine.reply Host.next
    split
    · exact hm
    · split
      · exact hm
      · exact hh _ _ _ _ _ hm
  have hmv := Machine.moves_of_step hs
  cases c with
  | ask i => exact hP (Machine.tended_ask hmv) (hreply i)
  | run frames => exact hP (Machine.tended_moves hmv (fun _ h => nomatch h)) hm
  | backtrack => exact hP (Machine.tended_moves hmv (fun _ h => nomatch h)) hm

/-- **What tending the contexts keeps, and the application and others keep, is kept at all times.** -/
theorem Passes.keeps_forest {P : Context.Forest → Prop} (hP : ∀ {f g}, Tended f g → P f → P g)
    (hh : ∀ w s p args n, P s.tree.forest → P (e.host.ask w s p args n).session.tree.forest)
    (ho : ∀ w s w' s', others w s w' s' → P s.tree.forest → P s'.tree.forest) {a b : Moment σ}
    (hp : Passes e others a b) (ha : P a.machine.forest) : P b.machine.forest := by
  cases hp with
  | begin hq => exact ha
  | again hq => exact ha
  | move hs => exact keeps_forest_of_step hP hh hs ha
  | solved hs => exact keeps_forest_of_step hP hh hs ha
  | exhausted hs => exact hP (tended_finish _ _) (keeps_forest_of_step hP hh hs ha)
  | @failed q c m m' cause hs =>
    have hm' : P m'.forest := keeps_forest_of_step hP hh hs ha
    exact hP (tended_finish q (m'.rewind q.origin)) hm'
  | @close q w s =>
    unfold Query.close
    split
    · exact ha
    · exact hP (tended_finish q (q.machine w s)) ha
  | other hw => exact ho _ _ _ _ hw ha

end Remedy.Query
