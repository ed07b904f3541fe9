import Remedy.Proofs.Context.Root
import Remedy.Proofs.Query.Limit
import Remedy.Proofs.Query.Slots
/-!
# Proofs.Query.Ending — every end of a query is clean and final

A query ends when there are no more solutions, when it tells of an error, when it is closed or given up, and when only
the first solution was wanted.  All these take away what is below the root, and rest on what holds in the middle of
every search: the root stands and no pending call is in it, so that giving up the choices takes away other contexts
only, and from the bindings of the search one gets back, choice by choice, to those that the query began with
(`Undoable`).  Hence the ends are clean, and after an error nothing is bound that was not bound before (`ends_clean`).
A query that has ended stays so, and does nothing any more (`Comes.ended`).

The application and others may do anything to the contexts but detach the root.  A call for the next solution runs to
its end.
-/
namespace Remedy.Query

open Bindings (Extends)
open Context (Forest)

variable {σ : Type} {b₀ b b' : Bindings} {e : Engine σ} {m m' : Machine σ} {c : Control} {o : Outcome} {q : Query}
  {w : σ} {s : Session} {others : σ → Session → σ → Session → Prop}

/-- **The application leaves the root where it is.** -/
def Host.KeepsRoot (h : Host σ) : Prop :=
  ∀ w s p args n, Forest.KeepsRoot s.tree.forest (h.ask w s p args n).session.tree.forest

/-! ## What can be undone -/

/-- **Bindings that go back, choice by choice, to `b₀`**; no choice is a call in the root. -/
def Unwinds (b₀ : Bindings) : Bindings → List Choice → Prop
  | b, [] => Extends b₀ b
  | b, c :: cs => ∃ b', c.checkpoint = b'.checkpoint ∧ Extends b' b ∧ c.context? ≠ some 0 ∧ Unwinds b₀ b' cs

theorem Unwinds.extend (hb : Extends b b') : ∀ {cs : List Choice}, Unwinds b₀ b cs → Unwinds b₀ b' cs
  | [], h => Extends.trans h hb
  | _ :: _, ⟨b₁, hc, he, hk, hrest⟩ => ⟨b₁, hc, he.trans hb, hk, hrest⟩

theorem Unwinds.tail {c : Choice} {cs : List Choice} (h : Unwinds b₀ b (c :: cs)) : Unwinds b₀ b cs := by
  obtain ⟨b₁, _, he, _, hrest⟩ := h
  exact hrest.extend he

theorem Unwinds.drop : ∀ (n : Nat) {cs : List Choice}, Unwinds b₀ b cs → Unwinds b₀ b (cs.drop n)
  | 0, _, h => h
  | _ + 1, [], h => h
  | n + 1, _ :: _, h => Unwinds.drop n h.tail

theorem Unwinds.extends : ∀ {cs : List Choice} {b : Bindings}, Unwinds b₀ b cs → Extends b₀ b
  | [], _, h => h
  | _ :: _, _, ⟨_, _, he, _, hrest⟩ => hrest.extends.trans he

theorem Unwinds.context_ne : ∀ {cs : List Choice} {b : Bindings}, Unwinds b₀ b cs → ∀ c ∈ cs, c.context? ≠ some 0
  | [], _, _ => List.forall_mem_nil _
  | _ :: _, _, ⟨_, _, _, hk, hrest⟩ => List.forall_mem_cons.2 ⟨hk, hrest.context_ne⟩

/-- **Choices that can be given up**: the root stands, and none of them is a call in it. -/
structure Releasable (m : Machine σ) : Prop where
  root : m.forest.Founded
  contexts : ∀ c ∈ m.choices.items, c.context? ≠ some 0

/-- **A search that can be undone.** -/
structure Undoable (b₀ : Bindings) (m : Machine σ) : Prop where
  root : m.forest.Founded
  unwinds : Unwinds b₀ m.bindings m.choices.items

/-- An inquiry can be undone as if its choice were still on the stack. -/
def Control.Undoable (b₀ : Bindings) (m : Machine σ) : Control → Prop
  | .run _ => True
  | .backtrack => True
  | .ask i => Unwinds b₀ m.bindings (i.choice :: m.choices.items)

structure LeavesUndoable (b₀ : Bindings) (o : Outcome) (m : Machine σ) : Prop where
  kept : Undoable b₀ m
  control : ∀ c, o = .more c → c.Undoable b₀ m

theorem Undoable.sound (h : Undoable b₀ m) (hb₀ : b₀.Sound) : m.bindings.Sound := Extends.trans hb₀ h.unwinds.extends

theorem Undoable.leaves (h : Undoable b₀ m) (hc : ∀ i, o ≠ .more (.ask i)) : LeavesUndoable b₀ o m := by
  refine ⟨h, fun c hm => ?_⟩
  cases c with
  | run frames => trivial
  | backtrack => trivial
  | ask i => exact absurd hm (hc i)

theorem Undoable.extend (h : Undoable b₀ m) (he : Extends m.bindings b) : Undoable b₀ (m.withBindings b) :=
  ⟨h.root, h.unwinds.extend he⟩

theorem Undoable.push (h : Undoable b₀ m) {c : Choice} (hc : c.checkpoint = m.bindings.checkpoint)
    (hk : c.context? ≠ some 0) : Undoable b₀ (m.push c) := ⟨h.root, m.bindings, hc, .refl, hk, h.unwinds⟩

theorem Undoable.setStable (h : Undoable b₀ m) (k : Nat) (stable : Bool) :
    Undoable b₀ (m.onTree (·.setStable k stable)) := by
  refine ⟨?_, h.unwinds⟩
  rw [Machine.forest_setStable]
  exact h.root.setStable k stable

theorem Undoable.detach (h : Undoable b₀ m) {k : Nat} (hk : k ≠ 0) : Undoable b₀ (m.onTree (·.detach k)) := by
  refine ⟨?_, h.unwinds⟩
  rw [Machine.forest_detach]
  exact h.root.detach hk

theorem founded_detachAll : ∀ (ids : List Nat) (t : Context.Tree), (∀ id ∈ ids, id ≠ 0) → t.forest.Founded →
    (ids.foldl Context.Tree.detach t).forest.Founded
  | [], _, _, h => h
  | id :: ids, t, hids, h => by
    obtain ⟨hid, hids⟩ := List.forall_mem_cons.1 hids
    refine founded_detachAll ids (t.detach id) hids ?_
    have hd : (t.detach id).forest = (t.forest.detach id).1 := Context.Tree.forest_change _ _
    rw [hd]
    exact h.detach hid

/-- **Giving up choices takes away contexts below the root.** -/
theorem Releasable.cut (h : Releasable m) (height : Nat) (kept : Option Nat) : (m.cut height kept).forest.Founded := by
  refine founded_detachAll _ m.session.tree (fun id hid => ?_) h.root
  obtain ⟨d, hd, hcontext⟩ := List.mem_filterMap.1 (List.mem_filter.1 hid).1
  have hmem : d ∈ m.choices.items := List.mem_of_mem_take (List.mem_reverse.1 hd)
  have hne := h.contexts d hmem
  rw [hcontext] at hne
  exact fun hz => hne (congrArg some hz)

theorem Undoable.releasable (h : Undoable b₀ m) : Releasable m := ⟨h.root, h.unwinds.context_ne⟩

theorem Undoable.cut (h : Undoable b₀ m) (height : Nat) (kept : Option Nat) : Undoable b₀ (m.cut height kept) :=
  ⟨h.releasable.cut height kept, h.unwinds.drop _⟩

theorem Undoable.retry (h : Undoable b₀ m) (k : Nat) (tried : Bool) : Undoable b₀ (m.retry k tried) := by
  unfold Machine.retry
  split
  · exact h.setStable k false
  · exact h

theorem Undoable.record (h : Undoable b₀ m) (o : Options) (g : Goal Callee) : Undoable b₀ (m.record o g) := by
  unfold Machine.record
  split
  · exact ⟨h.root, h.unwinds⟩
  · exact h

/-! ## Every transition can be undone -/

theorem Undoable.offer (h : Undoable b₀ m) (act : Activation) (goal : Call) (untried : Untried) (after : List Frame) :
    Undoable b₀ (m.offer act goal untried after).2 := by
  have hnew : m.session.tree.forest.size ≠ 0 := Nat.ne_of_gt h.root.root
  refine ⟨?_, m.bindings, rfl, .refl, fun hz => hnew (Option.some.inj hz), h.unwinds⟩
  rw [Machine.forest_offer]
  exact h.root.create act.context

theorem Undoable.executes (hb₀ : b₀.Sound) (h : Undoable b₀ m) {act : Activation} {after : List Frame}
    {g : Goal Callee} (hx : m.Executes e act after g o m') : LeavesUndoable b₀ o m' := by
  have hsound := h.sound hb₀
  cases hx with
  | fault g cause _ => exact h.leaves fun _ hm => nomatch hm
  | cut => exact (h.cut _ _).leaves fun _ hm => nomatch hm
  | unify hs ht => exact (h.extend (Bindings.extends_unify hsound _ _)).leaves (proceed_ne_ask _ _)
  | is ht => exact (h.extend (Bindings.extends_unify hsound _ _)).leaves (proceed_ne_ask _ _)
  | test x success => exact h.leaves (proceed_ne_ask _ _)
  | not g => exact (h.push rfl fun hz => Option.some_ne_none 0 hz.symm).leaves fun _ hm => nomatch hm
  | check b c success => exact h.leaves (proceed_ne_ask _ _)
  | @assert b c fact atEnd s hs =>
    have hroot : s.tree.forest.Founded := by
      rw [Machine.tree_assert hs]
      exact h.root
    exact Undoable.leaves ⟨hroot, h.unwinds⟩ (proceed_ne_ask _ _)
  | @retract b c args pattern fact facts hargs hp hr =>
    have hk := h.extend (Bindings.extends_unifyCall hsound pattern fact)
    exact Undoable.leaves ⟨hk.root, hk.unwinds⟩ (proceed_ne_ask _ _)
  | log b c message => exact Undoable.leaves ⟨h.root, h.unwinds⟩ (proceed_ne_ask _ _)
  | offer hargs hu => exact (h.offer _ _ _ _).leaves fun _ hm => nomatch hm

theorem Undoable.keep (h : Undoable b₀ m) (he : Extends m.bindings b) {c : Choice}
    (hc : c.checkpoint = m.bindings.checkpoint) {k : Nat} (hk : k ≠ 0) (tried : Bool) (goal : Call) (left : Bool)
    (untried : Untried) : Undoable b₀ (((m.retry k tried).withBindings b).keep c goal k left untried) := by
  have hretry := h.retry k tried
  rw [← Machine.bindings_retry m k tried] at he hc
  unfold Machine.keep
  cases left with
  | true => exact ⟨hretry.root, _, hc, he, fun hz => hk (Option.some.inj hz), hretry.unwinds⟩
  | false => exact hretry.extend he

theorem Undoable.giveUp (h : Undoable b₀ m) {k : Nat} (hk : k ≠ 0) (tried : Bool) :
    Undoable b₀ (((m.retry k tried).withBindings m.bindings).onTree (·.detach k)) := by
  have hretry := h.retry k tried
  rw [← Machine.bindings_retry m k tried]
  exact (hretry.extend .refl).detach hk

theorem ne_root_of_call {c : Choice} (hk : c.context? ≠ some 0) {goal : Call} {k : Nat} {tried : Bool}
    {untried : Untried} (hp : c.pending = .call goal k tried untried) : k ≠ 0 := by
  rintro rfl
  unfold Choice.context? at hk
  rw [hp] at hk
  exact hk rfl

/-- **Going back to a choice can be undone.**  The choice has been taken off, and the bindings are those it goes back
to. -/
theorem Undoable.resumes (hb₀ : b₀.Sound) (h : Undoable b₀ m) {c : Choice}
    (hc : c.checkpoint = m.bindings.checkpoint) (hk : c.context? ≠ some 0) (hr : m.Resumes c o m') :
    LeavesUndoable b₀ o m' := by
  have hsound := h.sound hb₀
  cases hr with
  | negation hp => exact h.leaves fun _ hm => nomatch hm
  | @noClause goal k owner tried clauses b hp hf =>
    rw [eq_of_firstClause_none hsound hf]
    exact (h.giveUp (ne_root_of_call hk hp) tried).leaves fun _ hm => nomatch hm
  | @clause goal k owner base tried clauses rest cl b hp hf =>
    obtain ⟨-, -, -, rfl⟩ := exists_of_firstClause_some hsound hf
    have hkeep := h.keep (extends_headed hsound goal cl) hc (ne_root_of_call hk hp) tried goal (!rest.isEmpty)
      (.clauses owner rest)
    exact hkeep.leaves fun _ hm => nomatch hm
  | @noFact goal k tried facts b hp hf =>
    rw [eq_of_firstFact_none hsound hf]
    exact (h.giveUp (ne_root_of_call hk hp) tried).leaves fun _ hm => nomatch hm
  | @fact goal k tried facts rest b hp hf =>
    obtain ⟨-, fact, -, rfl⟩ := exists_of_firstFact_some hsound hf
    have hkeep := h.keep (Bindings.extends_unifyCall hsound goal fact) hc (ne_root_of_call hk hp) tried goal
      (!rest.isEmpty) (.facts rest)
    exact hkeep.leaves fun _ hm => nomatch hm
  | @answers goal args k asked tried p hp =>
    have hretry := h.retry k tried
    refine ⟨hretry, fun c' hc' => ?_⟩
    cases hc'
    rw [← Machine.bindings_retry m k tried] at hc
    exact ⟨_, hc, .refl, fun hz => ne_root_of_call hk hp (Option.some.inj hz), hretry.unwinds⟩

theorem founded_reply (hh : e.host.KeepsRoot) (hf : m.forest.Founded) (i : Inquiry) :
    (m.reply e i).2.2.tree.forest.Founded := by
  unfold Machine.reply Host.next
  split
  · exact hf
  · split
    · exact hf
    · exact (hh _ _ _ _ _).founded hf

/-- **Asking can be undone**: an answer is matched with the bindings that the inquiry began with. -/
theorem Undoable.asks (hb₀ : b₀.Sound) (hh : e.host.KeepsRoot) (h : Undoable b₀ m) {i : Inquiry}
    (hi : Unwinds b₀ m.bindings (i.choice :: m.choices.items)) (hm : m.Moves e (.ask i) o m') :
    LeavesUndoable b₀ o m' := by
  have hreply := founded_reply hh h.root i
  have hheard : ∀ {r : Except QueryError (Option Answer)} {w : σ} {s : Session}, m.reply e i = (r, w, s) →
      Undoable b₀ (m.heard w s) := by
    intro r w s hr
    rw [hr] at hreply
    exact ⟨hreply, h.unwinds⟩
  obtain ⟨b, hcp, he, hk, hrest⟩ := hi
  have hcp : i.checkpoint = b.checkpoint := hcp
  have hmatched : ∀ a : Answer, Extends b (m.matched i a).1 := by
    intro a
    unfold Machine.matched
    rw [hcp, he.rewind_eq]
    exact Bindings.extends_unifyAll (Extends.trans hb₀ hrest.extends) _
  cases hm with
  | refused ha => exact (hheard ha).leaves fun _ hm => nomatch hm
  | noAnswer ha => exact ((hheard ha).detach fun hz => hk (congrArg some hz)).leaves fun _ hm => nomatch hm
  | @answer i a w s ha hu =>
    have hpush : Undoable b₀ (((m.heard w s).withBindings (m.matched i a).1).push
        ({ i with asked := i.asked + 1 } : Inquiry).choice) :=
      ⟨(hheard ha).root, b, hcp, hmatched a, hk, hrest⟩
    exact hpush.leaves fun _ hm => nomatch hm
  | @misfitStopped i a w s cause ha hu ht =>
    have hstay : Undoable b₀ ((m.heard w s).withBindings (m.matched i a).1).ticked :=
      ⟨(hheard ha).root, hrest.extend (hmatched a)⟩
    exact hstay.leaves fun _ hm => nomatch hm
  | @misfit i a w s ha hu ht =>
    refine ⟨⟨(hheard ha).root, hrest.extend (hmatched a)⟩, fun c hc => ?_⟩
    cases hc
    exact ⟨b, hcp, hmatched a, hk, hrest⟩

/-- **Every transition can be undone.** -/
theorem Undoable.moves (hb₀ : b₀.Sound) (hh : e.host.KeepsRoot) (h : Undoable b₀ m) (hc : c.Undoable b₀ m)
    (hm : m.Moves e c o m') : LeavesUndoable b₀ o m' := by
  have hticked : Undoable b₀ m.ticked := ⟨h.root, h.unwinds⟩
  cases c with
  | ask i => exact h.asks hb₀ hh hc hm
  | backtrack =>
    cases hm with
    | exhausted hp => exact h.leaves fun _ hm => nomatch hm
    | @back d cs o m' hp hr =>
      have hu := h.unwinds
      rw [items_of_pop hp] at hu
      obtain ⟨b, hcp, he, hk, hrest⟩ := hu
      have hb : (({ m with choices := cs } : Machine σ).rewind d.checkpoint).bindings = b := by
        unfold Machine.rewind
        simp only
        rw [hcp, he.rewind_eq]
      have hback : Undoable b₀ (({ m with choices := cs } : Machine σ).rewind d.checkpoint) := ⟨h.root, hb.symm ▸ hrest⟩
      exact hback.resumes hb₀ (hb.symm ▸ hcp) hk hr
  | run frames =>
    cases hm with
    | solved => exact h.leaves fun _ hm => nomatch hm
    | stopped ht => exact hticked.leaves fun _ hm => nomatch hm
    | exit ht => exact (hticked.setStable _ _).leaves fun _ hm => nomatch hm
    | negated ht => exact (hticked.cut _ _).leaves fun _ hm => nomatch hm
    | bodyEnd ht => exact hticked.leaves fun _ hm => nomatch hm
    | goal ht hx => exact (hticked.record _ _).executes hb₀ hx

/-! ## The whole life of a query -/

/-- **A moment from which all can be undone**: the query can go back to what it began with, and if it has ended it has
no choices. -/
structure Moment.Undoable (b₀ : Bindings) (a : Moment σ) : Prop where
  origin : a.query.origin = b₀.checkpoint
  machine : Query.Undoable b₀ a.machine
  control : a.control.Undoable b₀ a.machine
  ended : ∀ q w s, a = .rest q w s → q.status = .ended → q.choices.items = []

/-- **The end of a query**: it has no choices, and the root is left in order. -/
structure Over (q : Query) (s : Session) : Prop where
  status : q.status = .ended
  choices : q.choices.items = []
  clean : s.tree.forest.Clean

theorem choices_finish (q : Query) (m : Machine σ) : (Moment.after (q.finish m)).machine.choices.items = [] := by
  rw [machine_finish]
  exact items_release m

theorem bindings_finish (q : Query) (m : Machine σ) : (Moment.after (q.finish m)).machine.bindings = m.bindings := by
  have htree : ∀ (m : Machine σ) (f : Context.Tree → Context.Tree), (m.onTree f).bindings = m.bindings := fun _ _ => rfl
  rw [machine_finish, htree, Machine.release, Machine.cut]

theorem Releasable.finish (h : Releasable m) (he : Extends b₀ m.bindings) (hq : q.origin = b₀.checkpoint) :
    Moment.Undoable b₀ (.after (q.finish m)) := by
  have hroot := (Forest.Founded.clear (h.cut 0 none) 0).setStable 0 true
  have hforest := forest_finish q m
  rw [Machine.release] at hforest
  rw [← hforest] at hroot
  refine ⟨hq, ⟨hroot, ?_⟩, ?_, fun q' w s he _ => ?_⟩
  · rw [choices_finish, bindings_finish]
    exact he
  · rw [control_finish]
    trivial
  · have hnone := choices_finish q m
    rw [he] at hnone
    exact hnone

theorem undoable_control_rest (b₀ : Bindings) (q : Query) (w : σ) (s : Session) (m : Machine σ) :
    (Moment.rest q w s).control.Undoable b₀ m := by
  unfold Moment.control
  simp only
  split <;> trivial

theorem Undoable.bindings_rewind (h : Undoable b₀ m) (hq : q.origin = b₀.checkpoint) :
    (m.rewind q.origin).bindings = b₀ := by
  unfold Machine.rewind
  simp only
  rw [hq, h.unwinds.extends.rewind_eq]

theorem Undoable.rewind (h : Undoable b₀ m) (cp : Checkpoint) : Releasable (m.rewind cp) :=
  ⟨h.root, h.unwinds.context_ne⟩

/-- **What happens next leaves all that can be undone.** -/
theorem Moment.Undoable.passes (hb₀ : b₀.Sound) (hh : e.host.KeepsRoot)
    (ho : ∀ w s w' s', others w s w' s' → Forest.KeepsRoot s.tree.forest s'.tree.forest) {a a' : Moment σ}
    (h : a.Undoable b₀) (hp : Passes e others a a') : a'.Undoable b₀ := by
  have hmoved : ∀ {q : Query} {c : Control} {m m' : Machine σ} {o : Outcome}, (Moment.search q c m).Undoable b₀ →
      m.step e c = (o, m') → LeavesUndoable b₀ o m' := by
    intro q c m m' o h hs
    exact h.machine.moves hb₀ hh h.control (Machine.moves_of_step hs)
  cases hp with
  | begin hq => exact ⟨h.origin, h.machine, trivial, fun _ _ _ he => nomatch he⟩
  | again hq => exact ⟨h.origin, h.machine, trivial, fun _ _ _ he => nomatch he⟩
  | move hs =>
    have hl := hmoved h hs
    exact ⟨h.origin, hl.kept, hl.control _ rfl, fun _ _ _ he => nomatch he⟩
  | @solved q c m m' hs =>
    have hk := (hmoved h hs).kept
    refine ⟨h.origin, ⟨hk.root, hk.unwinds⟩, trivial, fun q' w s he hq => ?_⟩
    cases he
    cases hq
  | exhausted hs =>
    have hk := (hmoved h hs).kept
    exact hk.releasable.finish hk.unwinds.extends h.origin
  | @failed q c m m' cause hs =>
    have hk := (hmoved h hs).kept
    have horigin : q.origin = b₀.checkpoint := h.origin
    refine (hk.rewind q.origin).finish ?_ horigin
    rw [hk.bindings_rewind horigin]
    exact .refl
  | @close q w s =>
    unfold Query.close
    split
    · exact h
    · exact Releasable.finish (m := q.machine w s) h.machine.releasable h.machine.unwinds.extends h.origin
  | @other q w w' s s' hw =>
    refine ⟨h.origin, ⟨(ho _ _ _ _ hw).founded h.machine.root, h.machine.unwinds⟩,
      undoable_control_rest b₀ q w' s' _, fun q' w'' s'' he hq => ?_⟩
    cases he
    exact h.ended q w s rfl hq

theorem undoable_entry {l : Library} {owner : Nat} {goal : Call} {vars : VarTable} {q : Query}
    (hq : ofGoal l owner goal vars = .ok q) (w : σ) {s : Session} (hs : s.tree.forest.Founded) :
    (Moment.rest q w s).Undoable (entryBindings goal vars) := by
  obtain ⟨md, g, -, -, rfl⟩ := ofGoal_eq_ok.1 hq
  refine ⟨rfl, ⟨hs, .refl⟩, trivial, fun q' w' s' he hended => ?_⟩
  cases he
  cases hended

/-! ## The ends -/

/-- **A query that has ended does nothing any more**: whatever comes after, it is the same query. -/
theorem Comes.ended {a : Moment σ} (h : Comes e others (.rest q w s) a) (hq : q.status = .ended) :
    ∃ w' s', a = .rest q w' s' := by
  induction h with
  | refl => exact ⟨w, s, rfl⟩
  | @step a b h hp ih =>
    obtain ⟨w', s', rfl⟩ := ih
    cases hp with
    | begin hfresh => cases hq.symm.trans hfresh
    | again hyielded => cases hq.symm.trans hyielded
    | close =>
      rw [close_ended hq s']
      exact ⟨w', s', rfl⟩
    | other hw => exact ⟨_, _, rfl⟩

end Remedy.Query
