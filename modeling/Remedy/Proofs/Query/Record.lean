import Remedy.Proofs.Query.Life
/-!
# Proofs.Query.Record — an application that keeps a record of what it is asked

Any application can be made to write down each call that it is asked, beside its world (`Host.recorded`).  The search
never looks at the world, so it goes as it would have gone without (`step_recorded`, `next_recorded`): what the record
says of a query with the recording application, it says of the query with the application itself.
-/
namespace Remedy.Query

variable {σ : Type}

/-- A predicate of the application, and the call of it. -/
abbrev Asked := External × Call

/-- **The application, with a record of the calls it is asked**, in their order. -/
def Host.recorded (h : Host σ) : Host (σ × List Asked) :=
  ⟨fun w s p args n =>
    let r := h.ask w.1 s p args n
    ⟨(r.world, w.2 ++ [(p, args)]), r.session, r.delay, r.result⟩⟩

def Engine.recorded (e : Engine σ) : Engine (σ × List Asked) := ⟨e.library, e.host.recorded, e.options⟩

def recordedOthers (others : σ → Session → σ → Session → Prop) :
    σ × List Asked → Session → σ × List Asked → Session → Prop :=
  fun w s w' s' => others w.1 s w'.1 s' ∧ w'.2 = w.2

namespace Machine

/-- The state of the search without the record. -/
def forget (m : Machine (σ × List Asked)) : Machine σ := ⟨m.world.1, m.session, m.bindings, m.choices, m.steps⟩

def forgotten (r : Outcome × Machine (σ × List Asked)) : Outcome × Machine σ := (r.1, r.2.forget)

variable (e : Engine σ) (m : Machine (σ × List Asked))

theorem unifyResults_forget (s t : Except QueryError Term) (after : List Frame) :
    m.forget.unifyResults s t after = forgotten (m.unifyResults s t after) := by
  cases s with
  | error cause => rfl
  | ok s =>
    cases t with
    | error cause => rfl
    | ok t => rfl

theorem builtin_forget (b : Builtin) (goal : Call) (after : List Frame) :
    m.forget.builtin b goal after = forgotten (m.builtin b goal after) := by
  have hassert : ∀ atEnd, m.forget.assert goal atEnd after = forgotten (m.assert goal atEnd after) := by
    intro atEnd
    unfold assert
    have hf : m.forget.factOf goal = m.factOf goal := rfl
    rw [hf]
    cases m.factOf goal with
    | error cause => rfl
    | ok fact =>
      have hs : m.forget.session = m.session := rfl
      simp only [hs]
      cases m.session.assert fact atEnd with
      | error cause => rfl
      | ok s => rfl
  cases b with
  | assert => exact hassert true
  | assertFront => exact hassert false
  | retract =>
    unfold builtin retract
    have hf : m.forget.factOf goal = m.factOf goal := rfl
    simp only [hf]
    cases m.factOf goal with
    | error cause => rfl
    | ok pattern =>
      have hs : m.forget.session = m.session := rfl
      simp only [hs]
      cases m.session.facts.retract? pattern.functor (matchesAlone pattern) with
      | none => rfl
      | some found => rfl
  | true | fail | var | nonvar | log => rfl

theorem call_forget (act : Activation) (callee : Callee) (c : Call) (after : List Frame) :
    call e m.forget act callee c after = forgotten (call e.recorded m act callee c after) := by
  unfold call
  have henv : m.forget.env act = m.env act := rfl
  rw [henv]
  cases Term.instantiateArgs (m.env act) act.base c.args with
  | error cause => rfl
  | ok args =>
    cases callee with
    | builtin b => exact builtin_forget m b ⟨c.functor, args⟩ after
    | own index => rfl
    | foreign owner index => rfl
    | facts name => rfl
    | external p => rfl

theorem execute_forget (act : Activation) (g : Goal Callee) (after : List Frame) :
    execute e m.forget act g after = forgotten (execute e.recorded m act g after) := by
  cases g with
  | call callee c => exact call_forget e m act callee c after
  | cut => rfl
  | unify a b => exact unifyResults_forget m (m.instantiate act a) (m.instantiate act b) after
  | is target x =>
    unfold execute
    have hv : m.forget.value act x = m.value act x := rfl
    simp only [hv]
    cases m.value act x with
    | error cause => rfl
    | ok v => exact unifyResults_forget m (m.instantiate act target) (.ok (.const v)) after
  | test x =>
    unfold execute
    have hv : m.forget.value act x = m.value act x := rfl
    simp only [hv]
    cases m.value act x with
    | error cause => rfl
    | ok v => rfl
  | not g => rfl

theorem tick_forget (o : Options) : m.forget.tick o = ((m.tick o).1, (m.tick o).2.forget) := by
  unfold tick
  simp only
  split
  · rename_i h
    have h' : o.maxSteps < m.steps + 1 := h
    rw [if_pos h']
    rfl
  · rename_i h
    have h' : ¬o.maxSteps < m.steps + 1 := h
    rw [if_neg h']
    have hs : m.forget.session.isCancelled = m.session.isCancelled := rfl
    simp only [hs]
    cases m.session.isCancelled <;> rfl

theorem record_forget (o : Options) (g : Goal Callee) : m.forget.record o g = (m.record o g).forget := by
  unfold record
  cases o.trace <;> rfl

theorem runFrame_forget (f : Frame) (fs : List Frame) :
    runFrame e m.forget f fs = forgotten (runFrame e.recorded m f fs) := by
  cases f with
  | exit k => rfl
  | negated height => rfl
  | body act goals =>
    cases goals with
    | nil => rfl
    | cons g rest =>
      have hr : m.forget.record e.options g = (m.record e.options g).forget := record_forget m e.options g
      unfold runFrame
      simp only [hr]
      exact execute_forget e (m.record e.options g) act g (afterGoal act rest fs)

theorem resume_forget (c : Choice) : m.forget.resume c = forgotten (m.resume c) := by
  have hretry : ∀ (k : Nat) (tried : Bool), (if tried then m.forget.onTree (·.setStable k false) else m.forget) =
      (if tried then m.onTree (·.setStable k false) else m).forget := by
    intro k tried
    cases tried <;> rfl
  rcases c with ⟨cp, after, _ | ⟨goal, k, tried, untried⟩⟩
  · rfl
  · unfold resume
    simp only [hretry]
    generalize (if tried then m.onTree (·.setStable k false) else m) = m'
    have hb : m'.forget.bindings = m'.bindings := rfl
    cases untried with
    | clauses owner rest =>
      unfold tryClauses
      simp only [hb]
      rcases firstClause goal m'.bindings rest with ⟨b, _ | ⟨base, cl, rest'⟩⟩
      · rfl
      · cases rest' <;> rfl
    | facts rest =>
      unfold tryFacts
      simp only [hb]
      rcases firstFact goal m'.bindings rest with ⟨b, _ | rest'⟩
      · rfl
      · cases rest' <;> rfl
    | answers p args asked => rfl

theorem backtrack_forget : m.forget.backtrack = forgotten m.backtrack := by
  unfold backtrack
  have hc : m.forget.choices = m.choices := rfl
  rw [hc]
  cases m.choices.pop? with
  | none => rfl
  | some popped =>
    exact resume_forget (({ m with choices := popped.2 } : Machine _).rewind popped.1.checkpoint) popped.1

/-- **What the application is asked, and what it replies**, is the same with the record. -/
theorem reply_forget (i : Inquiry) : m.forget.reply e i =
    ((m.reply e.recorded i).1, (m.reply e.recorded i).2.1.1, (m.reply e.recorded i).2.2) := by
  unfold reply Host.next
  have hs : m.forget.session = m.session := rfl
  simp only [hs]
  cases m.session.tree.forest.isCancelled i.context with
  | true => rfl
  | false => cases i.predicate.once && i.asked != 0 <;> rfl

theorem ask_forget (i : Inquiry) : ask e m.forget i = forgotten (ask e.recorded m i) := by
  have hr : e.host.next e.options.limit m.forget.world m.forget.session i.context i.predicate i.args i.asked =
      ((m.reply e.recorded i).1, (m.reply e.recorded i).2.1.1, (m.reply e.recorded i).2.2) := reply_forget e m i
  have hr' : e.recorded.host.next e.recorded.options.limit m.world m.session i.context i.predicate i.args i.asked =
      m.reply e.recorded i := rfl
  unfold ask
  rw [hr, hr']
  rcases m.reply e.recorded i with ⟨_ | _ | a, w, s⟩
  · rfl
  · rfl
  · have hb : m.forget.bindings = m.bindings := rfl
    simp only [hb]
    rcases (m.bindings.rewind i.checkpoint).unifyAll (answerEquations i.goal a) with ⟨b, _ | _⟩
    · have ht := tick_forget ((m.heard w s).withBindings b) e.options
      have hm : ((m.heard w s).withBindings b).forget = (m.forget.heard w.1 s).withBindings b := rfl
      rw [hm] at ht
      simp only [Bool.false_eq_true, ↓reduceIte]
      have hm₁ : ({ world := w.1, session := s, bindings := b, choices := m.forget.choices, steps := m.forget.steps } :
          Machine σ) = (m.forget.heard w.1 s).withBindings b := rfl
      have hm₂ : ({ world := w, session := s, bindings := b, choices := m.choices, steps := m.steps } :
          Machine (σ × List Asked)) = (m.heard w s).withBindings b := rfl
      have ho : e.recorded.options = e.options := rfl
      rw [hm₁, hm₂, ht, ho]
      rcases ((m.heard w s).withBindings b).tick e.options with ⟨_ | cause, m'⟩ <;> rfl
    · rfl

/-- **A transition is the same with the record.** -/
theorem step_recorded (c : Control) : step e m.forget c = forgotten (step e.recorded m c) := by
  cases c with
  | run frames =>
    cases frames with
    | nil => rfl
    | cons f fs =>
      have ht := tick_forget m e.options
      unfold step
      simp only [ht]
      have ho : e.recorded.options = e.options := rfl
      rw [ho]
      rcases m.tick e.options with ⟨_ | cause, m'⟩
      · exact runFrame_forget e m' f fs
      · rfl
  | backtrack => exact backtrack_forget m
  | ask i => exact ask_forget e m i

theorem runFor_recorded : ∀ (n : Nat) (m : Machine (σ × List Asked)) (c : Control),
    runFor e n m.forget c = ((runFor e.recorded n m c).1, (runFor e.recorded n m c).2.forget)
  | 0, _, _ => rfl
  | n + 1, m, c => by
    unfold runFor
    rw [step_recorded e m c]
    rcases step e.recorded m c with ⟨c' | _ | _ | cause, m'⟩
    · exact runFor_recorded n m' c'
    · rfl
    · rfl
    · rfl

end Machine

/-- **A call for the next solution goes as it would have gone without the record**: the same is said, and the query, the
world and the session are the same. -/
theorem next_recorded (e : Engine σ) (q : Query) (w : σ) (l : List Asked) (s : Session) :
    q.next e w s = ((q.next e.recorded (w, l) s).1, (q.next e.recorded (w, l) s).2.1,
      (q.next e.recorded (w, l) s).2.2.1.1, (q.next e.recorded (w, l) s).2.2.2) := by
  have hgo : ∀ c, q.goOn e (q.machine w s) c = ((q.goOn e.recorded (q.machine (w, l) s) c).1,
      (q.goOn e.recorded (q.machine (w, l) s) c).2.1, (q.goOn e.recorded (q.machine (w, l) s) c).2.2.1.1,
      (q.goOn e.recorded (q.machine (w, l) s) c).2.2.2) := by
    intro c
    have hr := Machine.runFor_recorded e (Machine.enough e (q.machine w s)) (q.machine (w, l) s) c
    have hm : (q.machine (w, l) s).forget = q.machine w s := rfl
    rw [hm] at hr
    unfold goOn Machine.run
    have he : Machine.enough e.recorded (q.machine (w, l) s) = Machine.enough e (q.machine w s) := rfl
    rw [he, hr]
    rcases Machine.runFor e.recorded (Machine.enough e (q.machine w s)) (q.machine (w, l) s) c with
      ⟨cause | _ | _, m'⟩ <;> rfl
  unfold next
  cases q.status with
  | ended => rfl
  | fresh frames => exact hgo _
  | yielded => exact hgo _

end Remedy.Query
