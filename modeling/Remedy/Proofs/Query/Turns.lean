import Remedy.Proofs.Query.Life
/-!
# Proofs.Query.Turns — what the life of a query does to its calls

For the contexts of the calls it does not matter what a goal says or which rule fits, only what is done next, which
frames wait, and what is done to the contexts.  A `Scene` is what is left of a moment without the rest, and `Turns`
lists what can become of a scene: every change in the life of a query is one of them (`passes_turns`).  Two of them are
deeds of calls: a call answers when its exit is run, and it is tried again when its own choice is gone back to.
-/
namespace Remedy.Query

open Context (Forest Tree)

variable {σ : Type}

def Frame.exit? : Frame → Option Nat
  | .exit k => some k
  | _ => none

/-- **The calls that frames are going to answer.** -/
def exits (frames : List Frame) : List Nat := frames.filterMap Frame.exit?

/-- The frames that are being run, or that follow an answer of the application. -/
def Control.frames : Control → List Frame
  | .run frames => frames
  | .backtrack => []
  | .ask i => i.after

/-- **What a moment is to the calls**: what is done next, the choices, and the contexts. -/
structure Scene where
  control : Control
  choices : List Choice
  tree : Tree

def Moment.scene (a : Moment σ) : Scene := ⟨a.control, a.machine.choices.items, a.machine.session.tree⟩

/-- **What is done for a call**: it answers, or it is tried again. -/
inductive Deed
  | answer (k : Nat)
  | retry (k : Nat)
  | other

def Control.deed (choices : List Choice) : Control → Deed
  | .run (.exit k :: _) => .answer k
  | .backtrack =>
    match choices.head?.bind Choice.context? with
    | some k => .retry k
    | none => .other
  | _ => .other

def deed : Moment σ → Moment σ → Deed
  | .search _ c m, .search _ _ _ => c.deed m.choices.items
  | _, _ => .other

/-- The frames after a goal are those after its rule, with the rest of the rule or without. -/
def Follows (act : Activation) (fs after : List Frame) : Prop := after = fs ∨ ∃ goals, after = .body act goals :: fs

/-- A call that goes on runs a rule, or goes on at once. -/
def Enters (k height : Nat) (after frames : List Frame) : Prop :=
  frames = after ∨ ∃ act goals, act.context = k ∧ act.barrier = height ∧ frames = .body act goals :: after

def Keeps (k : Nat) (after : List Frame) (cs cs' : List Choice) : Prop :=
  cs' = cs ∨ ∃ cp goal untried, cs' = ⟨cp, after, .call goal k true untried⟩ :: cs

def retried (t : Tree) (k : Nat) (tried : Bool) : Tree := if tried then t.setStable k false else t

/-- **What can become of a scene**, `minds` being what others may do to the tree of contexts. -/
inductive Turns (minds : Tree → Tree → Prop) : Scene → Deed → Scene → Prop
  | same {a : Scene} : Turns minds a .other a
  | others {c : Control} {cs : List Choice} {t t' : Tree} (h : minds t t') (hc : ∀ i, c ≠ .ask i) :
    Turns minds ⟨c, cs, t⟩ .other ⟨c, cs, t'⟩
  | exit {k : Nat} {fs : List Frame} {cs : List Choice} {t : Tree} :
    Turns minds ⟨.run (.exit k :: fs), cs, t⟩ (.answer k) ⟨.run fs, cs, t.setStable k true⟩
  | go {act : Activation} {goals : List (Goal Callee)} {fs after : List Frame} {cs : List Choice} {t : Tree}
    (h : Follows act fs after) : Turns minds ⟨.run (.body act goals :: fs), cs, t⟩ .other ⟨.run after, cs, t⟩
  | fail {act : Activation} {goals : List (Goal Callee)} {fs : List Frame} {cs : List Choice} {t : Tree} :
    Turns minds ⟨.run (.body act goals :: fs), cs, t⟩ .other ⟨.backtrack, cs, t⟩
  | cut {act : Activation} {goals : List (Goal Callee)} {fs after : List Frame} {cs : List Choice} {t : Tree}
    {ids : List Nat} (h : Follows act fs after)
    (hids : ∀ id, id ∈ ids ↔ id ≠ act.context ∧ ∃ d ∈ cs.take (cs.length - act.barrier), d.context? = some id) :
    Turns minds ⟨.run (.body act goals :: fs), cs, t⟩ .other
      ⟨.run after, cs.drop (cs.length - act.barrier), ids.foldl Tree.detach t⟩
  | negate {act : Activation} {goals : List (Goal Callee)} {fs after : List Frame} {cs : List Choice} {t : Tree}
    {cp : Checkpoint} {g : Goal Callee} (h : Follows act fs after) :
    Turns minds ⟨.run (.body act goals :: fs), cs, t⟩ .other
      ⟨.run [.body { act with barrier := cs.length + 1 } [g], .negated cs.length], ⟨cp, after, .negation⟩ :: cs, t⟩
  | negated {height : Nat} {fs : List Frame} {cs : List Choice} {t : Tree} {ids : List Nat}
    (hids : ∀ id, id ∈ ids ↔ ∃ d ∈ cs.take (cs.length - height), d.context? = some id) :
    Turns minds ⟨.run (.negated height :: fs), cs, t⟩ .other
      ⟨.backtrack, cs.drop (cs.length - height), ids.foldl Tree.detach t⟩
  | offer {act : Activation} {goals : List (Goal Callee)} {fs after : List Frame} {cs : List Choice} {t : Tree}
    {cp : Checkpoint} {goal : Call} {untried : Untried} (h : Follows act fs after) :
    Turns minds ⟨.run (.body act goals :: fs), cs, t⟩ .other
      ⟨.backtrack, ⟨cp, .exit t.forest.size :: after, .call goal t.forest.size false untried⟩ :: cs,
        (t.create act.context).2⟩
  | undo {d : Choice} {cs : List Choice} {t : Tree} (h : d.pending = .negation) :
    Turns minds ⟨.backtrack, d :: cs, t⟩ .other ⟨.run d.after, cs, t⟩
  | giveUp {d : Choice} {goal : Call} {k : Nat} {tried : Bool} {untried : Untried} {cs : List Choice} {t : Tree}
    (h : d.pending = .call goal k tried untried) :
    Turns minds ⟨.backtrack, d :: cs, t⟩ (.retry k) ⟨.backtrack, cs, (retried t k tried).detach k⟩
  | retry {d : Choice} {goal : Call} {k : Nat} {tried : Bool} {untried : Untried} {frames : List Frame}
    {cs cs' : List Choice} {t : Tree} (h : d.pending = .call goal k tried untried)
    (hf : Enters k cs.length d.after frames) (hc : Keeps k d.after cs cs') :
    Turns minds ⟨.backtrack, d :: cs, t⟩ (.retry k) ⟨.run frames, cs', retried t k tried⟩
  | asks {d : Choice} {goal args : Call} {k asked : Nat} {tried : Bool} {p : External} {cs : List Choice} {t : Tree}
    (h : d.pending = .call goal k tried (.answers p args asked)) :
    Turns minds ⟨.backtrack, d :: cs, t⟩ (.retry k)
      ⟨.ask ⟨d.checkpoint, d.after, goal, k, p, args, asked⟩, cs, retried t k tried⟩
  | denied {i : Inquiry} {cs : List Choice} {t t' : Tree} (h : minds t t') :
    Turns minds ⟨.ask i, cs, t⟩ .other ⟨.backtrack, cs, t'.detach i.context⟩
  | answered {i : Inquiry} {cs : List Choice} {t t' : Tree} {cp : Checkpoint} {goal : Call} {untried : Untried}
    (h : minds t t') :
    Turns minds ⟨.ask i, cs, t⟩ .other ⟨.run i.after, ⟨cp, i.after, .call goal i.context true untried⟩ :: cs, t'⟩
  | misfit {i : Inquiry} {asked : Nat} {cs : List Choice} {t t' : Tree} (h : minds t t') :
    Turns minds ⟨.ask i, cs, t⟩ .other ⟨.ask { i with asked }, cs, t'⟩
  | solved {cs : List Choice} {t : Tree} : Turns minds ⟨.run [], cs, t⟩ .other ⟨.backtrack, cs, t⟩
  | ended {c : Control} {cs : List Choice} {t t' : Tree} {ids : List Nat} (h : minds t t')
    (hids : ∀ id, id ∈ ids ↔ ∃ d ∈ cs, d.context? = some id) :
    Turns minds ⟨c, cs, t⟩ .other ⟨.backtrack, [], ((ids.foldl Tree.detach t').clear 0).setStable 0 true⟩

/-! ## Every change is one of them -/

variable {e : Engine σ} {m m' : Machine σ} {o : Outcome} {others : σ → Session → σ → Session → Prop}
  {minds : Tree → Tree → Prop}

/-- **What the application and others do to the contexts.** -/
structure Minding (e : Engine σ) (others : σ → Session → σ → Session → Prop) (minds : Tree → Tree → Prop) :
    Prop where
  refl : ∀ t, minds t t
  host : ∀ w s p args n, minds s.tree (e.host.ask w s p args n).session.tree
  others : ∀ w s w' s', others w s w' s' → minds s.tree s'.tree

def Machine.scene (m : Machine σ) (c : Control) : Scene := ⟨c, m.choices.items, m.session.tree⟩

theorem follows_afterGoal (act : Activation) (rest : List (Goal Callee)) (fs : List Frame) :
    Follows act fs (Machine.afterGoal act rest fs) := by
  unfold Machine.afterGoal
  split
  · exact .inl rfl
  · exact .inr ⟨rest, rfl⟩

theorem minds_reply (hm : Minding e others minds) {i : Inquiry} {r : Except QueryError (Option Answer)} {w : σ}
    {s : Session} (h : m.reply e i = (r, w, s)) : minds m.session.tree s.tree := by
  have hreply : minds m.session.tree (m.reply e i).2.2.tree := by
    unfold Machine.reply Host.next
    split
    · exact hm.refl _
    · split
      · exact hm.refl _
      · exact hm.host _ _ _ _ _
  rw [h] at hreply
  exact hreply

theorem cut_items (m : Machine σ) (height : Nat) (keep : Option Nat) :
    (m.cut height keep).choices.items = m.choices.items.drop (m.choices.items.length - height) := by
  rw [m.choices.height_eq]
  rfl

theorem cut_tree (m : Machine σ) (height : Nat) (keep : Option Nat) : ∃ ids : List Nat,
    (m.cut height keep).session.tree = ids.foldl Tree.detach m.session.tree ∧ ∀ id, id ∈ ids ↔ some id ≠ keep ∧
      ∃ d ∈ m.choices.items.take (m.choices.items.length - height), d.context? = some id := by
  refine ⟨_, rfl, fun id => ?_⟩
  rw [List.mem_filter, List.mem_filterMap, m.choices.height_eq, and_comm]
  refine and_congr (by simp) (exists_congr fun d => and_congr_left' ?_)
  exact List.mem_reverse

theorem turns_proceed {act : Activation} {goals : List (Goal Callee)} {fs after : List Frame} {cs : List Choice}
    {t : Tree} (hf : Follows act fs after) {success : Bool} {c : Control} (h : Outcome.proceed success after = .more c) :
    Turns minds ⟨.run (.body act goals :: fs), cs, t⟩ .other ⟨c, cs, t⟩ := by
  cases h
  cases success with
  | true => exact .go hf
  | false => exact .fail

/-- **Running a goal** goes on, fails, cuts, negates, or lays out a call. -/
theorem turns_executes {act : Activation} {goals : List (Goal Callee)} {fs after : List Frame} {g : Goal Callee}
    (hf : Follows act fs after) (h : m.Executes e act after g o m') {c : Control} (ho : o = .more c) :
    Turns minds (m.scene (.run (.body act goals :: fs))) .other (m'.scene c) := by
  cases h with
  | fault g cause _ => cases ho
  | cut =>
    cases ho
    obtain ⟨ids, ht, hids⟩ := cut_tree m act.barrier (some act.context)
    rw [Machine.scene, Machine.scene, cut_items, ht]
    refine .cut hf fun id => (hids id).trans (and_congr_left' ?_)
    rw [ne_eq, ne_eq, Option.some.injEq]
  | unify ha hb => exact turns_proceed hf ho
  | is ha => exact turns_proceed hf ho
  | test x success => exact turns_proceed hf ho
  | not g =>
    cases ho
    unfold Machine.scene
    rw [← m.choices.height_eq]
    exact .negate hf
  | check b c success => exact turns_proceed hf ho
  | assert b c hs =>
    have ht := Machine.tree_assert hs
    unfold Machine.scene
    simp only [ht]
    exact turns_proceed hf ho
  | retract b c hargs hp hr => exact turns_proceed hf ho
  | log b c message => exact turns_proceed hf ho
  | offer hargs hu =>
    cases ho
    exact .offer hf

theorem tree_retry (m : Machine σ) (k : Nat) (tried : Bool) :
    (m.retry k tried).session.tree = retried m.session.tree k tried := by
  unfold Machine.retry retried
  split <;> rfl

theorem keeps_keep (m : Machine σ) (d : Choice) (goal : Call) (k : Nat) (left : Bool) (untried : Untried) :
    Keeps k d.after m.choices.items (m.keep d goal k left untried).choices.items ∧
      (m.keep d goal k left untried).session = m.session := by
  unfold Machine.keep
  split
  · exact ⟨.inr ⟨d.checkpoint, goal, untried, rfl⟩, rfl⟩
  · exact ⟨.inl rfl, rfl⟩

theorem turns_keep {d : Choice} {goal : Call} {k : Nat} {tried : Bool} {u untried : Untried}
    (h : d.pending = .call goal k tried u) (b : Bindings) (left : Bool) {frames : List Frame}
    (hf : Enters k m.choices.items.length d.after frames) :
    Turns minds ⟨.backtrack, d :: m.choices.items, m.session.tree⟩ (.retry k)
      ((((m.retry k tried).withBindings b).keep d goal k left untried).scene (.run frames)) := by
  obtain ⟨hkeeps, hsession⟩ := keeps_keep ((m.retry k tried).withBindings b) d goal k left untried
  have hcs : ((m.retry k tried).withBindings b).choices = m.choices := Machine.choices_retry m k tried
  have ht : ((m.retry k tried).withBindings b).session.tree = retried m.session.tree k tried := tree_retry m k tried
  rw [hcs] at hkeeps
  rw [Machine.scene, hsession, ht]
  exact .retry h hf hkeeps

theorem turns_giveUp {d : Choice} {goal : Call} {k : Nat} {tried : Bool} {u : Untried}
    (h : d.pending = .call goal k tried u) (b : Bindings) :
    Turns minds ⟨.backtrack, d :: m.choices.items, m.session.tree⟩ (.retry k)
      ((((m.retry k tried).withBindings b).onTree (·.detach k)).scene .backtrack) := by
  have hcs : (((m.retry k tried).withBindings b).onTree (·.detach k)).choices = m.choices := Machine.choices_retry m k tried
  have ht : (((m.retry k tried).withBindings b).onTree (·.detach k)).session.tree =
      (retried m.session.tree k tried).detach k := congrArg (Tree.detach · k) (tree_retry m k tried)
  rw [Machine.scene, hcs, ht]
  exact .giveUp h

/-- **Going back to a choice** undoes a negation, or tries a call again. -/
theorem turns_resumes {d : Choice} (h : m.Resumes d o m') {c : Control} (ho : o = .more c) :
    Turns minds ⟨.backtrack, d :: m.choices.items, m.session.tree⟩
      (Control.deed (d :: m.choices.items) .backtrack) (m'.scene c) := by
  have hdeed : ∀ {goal : Call} {k : Nat} {tried : Bool} {u : Untried}, d.pending = .call goal k tried u →
      Control.deed (d :: m.choices.items) .backtrack = .retry k := by
    intro goal k tried u hp
    rw [Control.deed, List.head?_cons, Option.bind_some, Choice.context?, hp]
  cases h with
  | negation hp =>
    cases ho
    rw [Control.deed, List.head?_cons, Option.bind_some, Choice.context?, hp]
    exact .undo hp
  | noClause hp hf =>
    cases ho
    rw [hdeed hp]
    exact turns_giveUp hp _
  | clause hp hf =>
    cases ho
    rw [hdeed hp]
    exact turns_keep hp _ _ (.inr ⟨_, _, rfl, m.choices.height_eq.symm, rfl⟩)
  | noFact hp hf =>
    cases ho
    rw [hdeed hp]
    exact turns_giveUp hp _
  | fact hp hf =>
    cases ho
    rw [hdeed hp]
    exact turns_keep hp _ _ (.inl rfl)
  | @answers goal args k asked tried p hp =>
    cases ho
    rw [hdeed hp, Machine.scene, Machine.choices_retry, tree_retry]
    exact .asks hp

/-- **Every transition that goes on** is one of the list; what the application does matters only if it is asked. -/
theorem turns_moves {c c' : Control} (hmind : ∀ i r w s, c = .ask i → m.reply e i = (r, w, s) → minds m.session.tree s.tree)
    (h : m.Moves e c o m') (ho : o = .more c') :
    Turns minds (m.scene c) (c.deed m.choices.items) (m'.scene c') := by
  cases h with
  | solved => cases ho
  | stopped ht => cases ho
  | exit ht =>
    cases ho
    exact .exit
  | @negated height fs ht =>
    cases ho
    obtain ⟨ids, htree, hids⟩ := cut_tree m.ticked height none
    rw [Machine.scene, Machine.scene, cut_items, htree]
    exact .negated fun id => (hids id).trans (and_iff_right fun he => nomatch he)
  | bodyEnd ht =>
    cases ho
    exact .go (.inl rfl)
  | @goal act g rest fs o m' ht hx =>
    have hturns : Turns minds ((m.ticked.record e.options g).scene (.run (.body act (g :: rest) :: fs))) .other (m'.scene c') :=
      turns_executes (follows_afterGoal act rest fs) hx ho
    have htree : (m.ticked.record e.options g).session.tree = m.session.tree := by
      unfold Machine.record
      split <;> rfl
    rw [Machine.scene, Machine.choices_record, htree] at hturns
    exact hturns
  | exhausted hp => cases ho
  | @back d ds o m' hp hr =>
    rw [Machine.scene, items_of_pop hp]
    exact turns_resumes hr ho
  | refused ha => cases ho
  | noAnswer ha =>
    cases ho
    exact .denied (hmind _ _ _ _ rfl ha)
  | answer ha hu =>
    cases ho
    exact .answered (hmind _ _ _ _ rfl ha)
  | misfitStopped ha hu ht => cases ho
  | misfit ha hu ht =>
    cases ho
    exact .misfit (hmind _ _ _ _ rfl ha)

/-- **A query that ends** gives up its choices and takes all its contexts away. -/
theorem scene_finish (q : Query) (m : Machine σ) : ∃ ids : List Nat,
    (Moment.after (q.finish m)).scene = ⟨.backtrack, [], ((ids.foldl Tree.detach m.session.tree).clear 0).setStable 0 true⟩ ∧
      ∀ id, id ∈ ids ↔ ∃ d ∈ m.choices.items, d.context? = some id := by
  obtain ⟨ids, htree, hids⟩ := cut_tree m 0 none
  have hitems : (m.release.onTree fun t => (t.clear 0).setStable 0 true).choices.items = [] := items_release m
  have honTree : ∀ (m : Machine σ) (f : Tree → Tree), (m.onTree f).session.tree = f m.session.tree := fun _ _ => rfl
  have hrelease : m.release.session.tree = ids.foldl Tree.detach m.session.tree := htree
  refine ⟨ids, ?_, fun id => ?_⟩
  · unfold Moment.scene
    rw [control_finish, machine_finish, hitems, honTree, hrelease]
  · rw [hids id, Nat.sub_zero, List.take_length]
    exact and_iff_right fun he => nomatch he

theorem turns_finish {q : Query} {c : Control} {cs : List Choice} {t : Tree} (hcs : m.choices.items = cs)
    (ht : minds t m.session.tree) :
    Turns minds ⟨c, cs, t⟩ .other (Moment.after (q.finish m)).scene := by
  obtain ⟨ids, hscene, hids⟩ := scene_finish q m
  rw [hscene]
  exact .ended ht (hcs ▸ hids)

theorem run_nil_of_solved {c : Control} (h : m.step e c = (.solved, m')) : c = .run [] ∧ m' = m := by
  have hm := Machine.moves_of_step h
  generalize ho : Outcome.solved = o at hm
  cases hm with
  | solved => exact ⟨rfl, rfl⟩
  | goal ht hx => cases hx <;> cases ho
  | back hp hr => cases hr <;> cases ho
  | _ => cases ho

theorem left_of_moves (hmind : Minding e others minds) {c : Control} (h : m.Moves e c o m') (ho : ∀ c', o ≠ .more c') :
    m'.choices.items = m.choices.items ∧ minds m.session.tree m'.session.tree := by
  cases h with
  | solved => exact ⟨rfl, hmind.refl _⟩
  | stopped ht => exact ⟨rfl, hmind.refl _⟩
  | exit ht => exact absurd rfl (ho _)
  | negated ht => exact absurd rfl (ho _)
  | bodyEnd ht => exact absurd rfl (ho _)
  | goal ht hx =>
    cases hx with
    | fault g cause _ =>
      refine ⟨congrArg Stack.items (Machine.choices_record m.ticked e.options _), ?_⟩
      unfold Machine.record
      split
      · exact hmind.refl _
      · exact hmind.refl _
    | _ => exact absurd rfl (ho _)
  | exhausted hp => exact ⟨rfl, hmind.refl _⟩
  | back hp hr => cases hr <;> exact absurd rfl (ho _)
  | refused ha => exact ⟨rfl, minds_reply hmind ha⟩
  | noAnswer ha => exact absurd rfl (ho _)
  | answer ha hu => exact absurd rfl (ho _)
  | misfitStopped ha hu ht => exact ⟨rfl, minds_reply hmind ha⟩
  | misfit ha hu ht => exact absurd rfl (ho _)

/-- **Every change in the life of a query** is one of the list. -/
theorem passes_turns (hmind : Minding e others minds) {a b : Moment σ} (hp : Passes e others a b) :
    Turns minds a.scene (deed a b) b.scene := by
  cases hp with
  | @begin q w s frames hq =>
    have hc : Moment.control (.rest q w s) = .run frames := by
      unfold Moment.control
      simp only [hq]
    rw [Moment.scene, hc]
    exact .same
  | @again q w s hq =>
    have hc : Moment.control (.rest q w s) = .backtrack := by
      unfold Moment.control
      simp only [hq]
    rw [Moment.scene, hc]
    exact .same
  | move hs => exact turns_moves (fun _ _ _ _ _ ha => minds_reply hmind ha) (Machine.moves_of_step hs) rfl
  | solved hs =>
    obtain ⟨rfl, rfl⟩ := run_nil_of_solved hs
    exact .solved
  | @exhausted q c m m' hs =>
    obtain ⟨hcs, ht⟩ := left_of_moves hmind (Machine.moves_of_step hs) fun _ h => nomatch h
    exact turns_finish hcs ht
  | @failed q c m m' cause hs =>
    obtain ⟨hcs, ht⟩ := left_of_moves hmind (Machine.moves_of_step hs) fun _ h => nomatch h
    exact turns_finish (m := m'.rewind q.origin) hcs ht
  | @close q w s =>
    unfold Query.close
    split
    · exact .same
    · exact turns_finish (m := q.machine w s) rfl (hmind.refl _)
  | @other q w w' s s' hw =>
    refine .others (hmind.others _ _ _ _ hw) fun i hi => ?_
    unfold Moment.control at hi
    simp only at hi
    split at hi <;> cases hi

end Remedy.Query
