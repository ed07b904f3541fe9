import Remedy.Proofs.Query.Cancellation
import Remedy.Proofs.Query.Limit
import Remedy.Proofs.Query.Record
/-!
# Proofs.Query.Chronicle — what the calls of a query tell and do, under two limits

Beside what it tells, a search does something to the world: it asks the application, and it asserts and retracts facts.
`Machine.does` says what one transition does, and it leaves nothing out: the facts that a transition leaves are those
that its happening leaves (`facts_step`), and the calls that the application is asked are those that are told of
(`asked_step`).

A chronicle lists what each of a number of calls tells, with what it has done.  Under a lower limit the chronicle is
the same or is cut off (`CutOff`): up to some call it is the same, and that call does a first part of what it would
have done, tells of the limit, and no call after it does anything.
-/
namespace Remedy.Query

variable {σ : Type} {e : Engine σ} {m m' : Machine σ} {c : Control} {o : Outcome} {n k : Nat}

/-! ## What a search does -/

/-- **What a transition does** beside its search: the application is asked, or the facts are changed. -/
inductive Happening
  | asked (predicate : External) (args : Call) (left : Facts)
  | asserted (fact : Call) (atEnd : Bool)
  | retracted (fact : Call) (left : Facts)

def Happening.leaves (f : Facts) : Happening → Facts
  | .asked _ _ left => left
  | .asserted fact atEnd => if atEnd then f.push fact else f.pushFront fact
  | .retracted _ left => left

def Happening.asked? : Happening → Option Asked
  | .asked p args _ => some (p, args)
  | _ => none

namespace Machine

def asserts (m : Machine σ) (goal : Call) (atEnd : Bool) : Option Happening :=
  match m.factOf goal with
  | .error _ => none
  | .ok fact => if fact.isGround then some (.asserted fact atEnd) else none

def retracts (m : Machine σ) (goal : Call) : Option Happening :=
  match m.factOf goal with
  | .error _ => none
  | .ok pattern =>
    (m.session.facts.retract? pattern.functor (matchesAlone pattern)).map fun (fact, left) => .retracted fact left

def builtinDoes (m : Machine σ) (goal : Call) : Builtin → Option Happening
  | .assert => m.asserts goal true
  | .assertFront => m.asserts goal false
  | .retract => m.retracts goal
  | _ => none

def goalDoes (m : Machine σ) (act : Activation) : Goal Callee → Option Happening
  | .call (.builtin b) c =>
    match Term.instantiateArgs (m.env act) act.base c.args with
    | .error _ => none
    | .ok args => m.builtinDoes ⟨c.functor, args⟩ b
  | _ => none

/-- The application is asked, unless the call has been cancelled or needs no second answer. -/
def isAsked (m : Machine σ) (i : Inquiry) : Bool :=
  !m.forest.isCancelled i.context && !(i.predicate.once && i.asked != 0)

/-- **What the next transition does.** -/
def does (e : Engine σ) (m : Machine σ) : Control → Option Happening
  | .run frames => ((Control.run frames).running e m).bind fun (act, g) => m.goalDoes act g
  | .backtrack => none
  | .ask i => if m.isAsked i then some (.asked i.predicate i.args (m.reply e i).2.2.facts) else none

theorem reply_not_asked (e : Engine σ) {i : Inquiry} (h : m.isAsked i = false) :
    (m.reply e i).2 = (m.world, m.session) := by
  unfold isAsked at h
  unfold reply Host.next
  split
  · rfl
  · rename_i hc
    split
    · rfl
    · rename_i ho
      have hc : m.forest.isCancelled i.context = false := Bool.eq_false_iff.2 hc
      rw [hc, Bool.eq_false_iff.2 ho] at h
      cases h

theorem reply_asked (e : Engine σ) {i : Inquiry} (h : m.isAsked i = true) :
    (m.reply e i).2 = ((e.host.ask m.world m.session i.predicate i.args i.asked).world,
      (e.host.ask m.world m.session i.predicate i.args i.asked).session) := by
  obtain ⟨hc, ho⟩ := Bool.and_eq_true_iff.1 h
  have hc : m.session.tree.forest.isCancelled i.context = false := (Bool.not_eq_eq_eq_not ..).1 hc
  have ho : (i.predicate.once && i.asked != 0) = false := (Bool.not_eq_eq_eq_not ..).1 ho
  unfold reply Host.next
  rw [hc, if_neg Bool.false_ne_true, ho, if_neg Bool.false_ne_true]

/-! ## Nothing else happens -/

def factsAfter (m : Machine σ) (h : Option Happening) : Facts := h.elim m.session.facts (·.leaves m.session.facts)

theorem facts_builtin (m : Machine σ) (b : Builtin) (goal : Call) (after : List Frame) :
    (m.builtin b goal after).2.session.facts = m.factsAfter (m.builtinDoes goal b) := by
  have hassert : ∀ atEnd, (m.assert goal atEnd after).2.session.facts = m.factsAfter (m.asserts goal atEnd) := by
    intro atEnd
    unfold assert asserts Session.assert Facts.assert
    cases m.factOf goal with
    | error cause => rfl
    | ok fact =>
      simp only
      cases fact.isGround <;> rfl
  cases b with
  | assert => exact hassert true
  | assertFront => exact hassert false
  | retract =>
    unfold builtin builtinDoes retract retracts
    simp only
    cases m.factOf goal with
    | error cause => rfl
    | ok pattern =>
      simp only
      cases m.session.facts.retract? pattern.functor (matchesAlone pattern) <;> rfl
  | true | fail | var | nonvar | log => rfl

theorem facts_unifyResults (m : Machine σ) (s t : Except QueryError Term) (after : List Frame) :
    (m.unifyResults s t after).2.session.facts = m.session.facts := by
  unfold unifyResults
  split <;> rfl

theorem facts_call (e : Engine σ) (m : Machine σ) (act : Activation) (callee : Callee) (c : Call)
    (after : List Frame) :
    (call e m act callee c after).2.session.facts = m.factsAfter (m.goalDoes act (.call callee c)) := by
  unfold call
  cases hargs : Term.instantiateArgs (m.env act) act.base c.args with
  | error cause =>
    cases callee with
    | builtin b =>
      simp only [goalDoes, hargs]
      rfl
    | _ => rfl
  | ok args =>
    cases callee with
    | builtin b =>
      simp only [goalDoes, hargs]
      exact facts_builtin m b ⟨c.functor, args⟩ after
    | _ => rfl

theorem facts_execute (e : Engine σ) (m : Machine σ) (act : Activation) (g : Goal Callee) (after : List Frame) :
    (execute e m act g after).2.session.facts = m.factsAfter (m.goalDoes act g) := by
  cases g with
  | call callee c => exact facts_call e m act callee c after
  | unify a b => exact facts_unifyResults m _ _ after
  | is a x =>
    unfold execute
    simp only
    split
    · rfl
    · exact facts_unifyResults m _ _ after
  | test x =>
    unfold execute
    simp only
    split <;> rfl
  | cut | not => rfl

theorem facts_retry (m : Machine σ) (k : Nat) (tried : Bool) : (m.retry k tried).session.facts = m.session.facts := by
  unfold retry
  split <;> rfl

theorem facts_keep (m : Machine σ) (c : Choice) (goal : Call) (k : Nat) (left : Bool) (untried : Untried) :
    (m.keep c goal k left untried).session.facts = m.session.facts := by
  unfold keep
  split <;> rfl

theorem facts_resumes {c : Choice} (h : m.Resumes c o m') : m'.session.facts = m.session.facts := by
  cases h with
  | negation => rfl
  | noClause => exact facts_retry m _ _
  | clause => exact (facts_keep _ _ _ _ _ _).trans (facts_retry m _ _)
  | noFact => exact facts_retry m _ _
  | fact => exact (facts_keep _ _ _ _ _ _).trans (facts_retry m _ _)
  | answers => exact facts_retry m _ _

theorem facts_ask {i : Inquiry} (h : m.Moves e (.ask i) o m') : m'.session.facts = (m.reply e i).2.2.facts := by
  cases h with
  | refused h | noAnswer h | answer h | misfitStopped h | misfit h =>
    rw [h]
    rfl

theorem facts_reply (e : Engine σ) (m : Machine σ) (i : Inquiry) :
    (m.reply e i).2.2.facts = m.factsAfter (m.does e (.ask i)) := by
  cases hasked : m.isAsked i with
  | true =>
    simp only [does, hasked]
    rfl
  | false =>
    simp only [does, hasked]
    rw [reply_not_asked e hasked]
    rfl

theorem goalDoes_record (m : Machine σ) (o : Options) (g : Goal Callee) (act : Activation) :
    (m.ticked.record o g).goalDoes act g = m.goalDoes act g := by
  unfold record
  split <;> rfl

theorem facts_record (m : Machine σ) (o : Options) (g : Goal Callee) :
    (m.record o g).session.facts = m.session.facts := by
  unfold record
  split <;> rfl

theorem facts_goal (e : Engine σ) (m : Machine σ) (act : Activation) (g : Goal Callee) (rest : List (Goal Callee))
    (fs : List Frame) : (runFrame e m.ticked (.body act (g :: rest)) fs).2.session.facts =
      m.factsAfter (m.goalDoes act g) := by
  have hx := facts_execute e (m.ticked.record e.options g) act g (afterGoal act rest fs)
  have hf : (m.ticked.record e.options g).session.facts = m.session.facts := facts_record m.ticked e.options g
  rw [goalDoes_record] at hx
  unfold factsAfter at hx ⊢
  rw [hf] at hx
  exact hx

/-- **The facts that a transition leaves** are those that its happening leaves. -/
theorem facts_step (e : Engine σ) (m : Machine σ) (c : Control) :
    (step e m c).2.session.facts = m.factsAfter (m.does e c) := by
  rcases hs : step e m c with ⟨o, m'⟩
  have hm := moves_of_step hs
  cases c with
  | ask i => exact (facts_ask hm).trans (facts_reply e m i)
  | backtrack =>
    cases hm with
    | exhausted h => rfl
    | back h hr =>
      have hf := facts_resumes hr
      exact hf
  | run frames =>
    cases frames with
    | nil =>
      cases hm
      rfl
    | cons f fs =>
      unfold step at hs
      unfold does Control.running
      have hsnd := tick_snd m e.options
      rcases htick : m.tick e.options with ⟨_ | cause, m₁⟩
      · rw [htick] at hsnd hs
        cases hsnd
        have hs : runFrame e m.ticked f fs = (o, m') := hs
        have hfacts : m'.session.facts = (runFrame e m.ticked f fs).2.session.facts := by rw [hs]
        rw [hfacts]
        cases f with
        | body act goals =>
          cases goals with
          | nil => rfl
          | cons g rest => exact facts_goal e m act g rest fs
        | _ => rfl
      · rw [htick] at hsnd hs
        cases hsnd
        cases hs
        cases f with
        | body act goals => cases goals <;> rfl
        | _ => rfl

theorem world_executes {act : Activation} {after : List Frame} {g : Goal Callee} (h : m.Executes e act after g o m') :
    m'.world = m.world := by
  cases h <;> rfl

theorem world_moves (h : m.Moves e c o m') (hc : ∀ i, c ≠ .ask i) : m'.world = m.world := by
  cases h with
  | @goal act g rest fs o m' ht hx =>
    have hrecord : (m.ticked.record e.options g).world = m.world := by
      unfold record
      split <;> rfl
    exact (world_executes hx).trans hrecord
  | back hp hr =>
    have hw := world_resumes hr
    exact hw
  | refused | noAnswer | answer | misfitStopped | misfit => exact absurd rfl (hc _)
  | solved | stopped | exit | negated | bodyEnd | exhausted => rfl

theorem world_ask {i : Inquiry} (h : m.Moves e (.ask i) o m') : m'.world = (m.reply e i).2.1 := by
  cases h with
  | refused h | noAnswer h | answer h | misfitStopped h | misfit h =>
    rw [h]
    rfl

theorem asked_goalDoes (m : Machine σ) (act : Activation) (g : Goal Callee) :
    (m.goalDoes act g).bind Happening.asked? = none := by
  have hasserts : ∀ goal atEnd, (m.asserts goal atEnd).bind Happening.asked? = none := by
    intro goal atEnd
    unfold asserts
    cases m.factOf goal with
    | error cause => rfl
    | ok fact =>
      simp only
      cases fact.isGround <;> rfl
  have hretracts : ∀ goal, (m.retracts goal).bind Happening.asked? = none := by
    intro goal
    unfold retracts
    cases m.factOf goal with
    | error cause => rfl
    | ok pattern =>
      simp only
      cases m.session.facts.retract? pattern.functor (matchesAlone pattern) <;> rfl
  unfold goalDoes
  split
  · split
    · rfl
    · rename_i b _ _ _ _
      cases b with
      | assert | assertFront => exact hasserts _ _
      | retract => exact hretracts _
      | _ => rfl
  · rfl

theorem asked_run (e : Engine σ) (m : Machine σ) (frames : List Frame) :
    (m.does e (.run frames)).bind Happening.asked? = none := by
  simp only [does]
  cases (Control.run frames).running e m with
  | none => rfl
  | some running => exact asked_goalDoes m running.1 running.2

/-- **The calls that the application is asked** are those that are told of. -/
theorem asked_step (e : Engine σ) (m : Machine (σ × List Asked)) (c : Control) :
    (step e.recorded m c).2.world.2 = m.world.2 ++ ((m.does e.recorded c).bind Happening.asked?).toList := by
  have hm := step_moves e.recorded m c
  cases c with
  | run frames =>
    rw [world_moves hm (fun _ h => nomatch h), asked_run]
    exact (List.append_nil _).symm
  | backtrack =>
    rw [world_moves hm (fun _ h => nomatch h)]
    exact (List.append_nil _).symm
  | ask i =>
    rw [world_ask hm]
    cases hasked : m.isAsked i with
    | false =>
      rw [reply_not_asked e.recorded hasked]
      simp only [does, hasked]
      exact (List.append_nil _).symm
    | true =>
      simp only [does, hasked]
      rw [reply_asked e.recorded hasked]
      rfl

/-! ## A search -/

def doingsFor (e : Engine σ) : Nat → Machine σ → Control → List Happening
  | 0, _, _ => []
  | n + 1, m, c =>
    (m.does e c).toList ++
      match step e m c with
      | (.more c', m') => doingsFor e n m' c'
      | _ => []

/-- **What a search does**, in order. -/
def doings (e : Engine σ) (m : Machine σ) (c : Control) : List Happening := doingsFor e (enough e m) m c

end Machine

/-! ## Calls -/

/-- **What a call for the next solution does**, in order. -/
def doings (e : Engine σ) (q : Query) (w : σ) (s : Session) : List Happening :=
  match q.status with
  | .ended => []
  | .fresh frames => (q.machine w s).doings e (.run frames)
  | .yielded => (q.machine w s).doings e .backtrack

/-- What a call tells, and what it has done by then. -/
abbrev Entry := Except QueryError (Option Solution) × List Happening

/-- **A chronicle that is cut off by the limit `n`**: it is whole, or up to some call it is the same, that call tells of
the limit when it has done a first part of what it would have done, and the calls after it tell of no more solutions
and do nothing. -/
inductive CutOff (n : Nat) : List Entry → List Entry → Prop
  | whole (entries : List Entry) : CutOff n entries entries
  | cut (before : List Entry) (entry : Entry) (after : List Entry) {done : List Happening} (h : done <+: entry.2) :
    CutOff n (before ++ (.error (.stepLimit n), done) :: List.replicate after.length (.ok none, []))
      (before ++ entry :: after)

theorem CutOff.cons {l l' : List Entry} (h : CutOff n l l') (entry : Entry) : CutOff n (entry :: l) (entry :: l') := by
  cases h with
  | whole => exact .whole _
  | cut before cutEntry after h => exact .cut (entry :: before) cutEntry after h

end Remedy.Query
