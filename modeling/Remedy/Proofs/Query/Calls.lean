import Remedy.Proofs.Context.Neighbours
import Remedy.Proofs.Query.Standing
import Remedy.Proofs.Query.Turns
/-!
# Proofs.Query.Calls — the calls that are in progress

A call is awaited as long as its exit is among the frames that are being run, or follows a choice.  The contexts of
awaited calls are connected with the root (`Scene.Strung.turns`), since the frames of a call are older than the choices
above them.  What a change in the life of a query does to the calls is then said without the frames (`Turns.effects`):
only a call that answers or is tried again changes whether it is stable itself, and an old call is awaited only if it
has been before.
-/
namespace Remedy.Query

open Context (Forest Tree)

variable {n k : Nat} {f g : Forest} {frames after fs : List Frame} {cs : List Choice} {c d : Choice} {act : Activation}

/-- The call whose rule a frame goes on with, or whose exit it is. -/
def Frame.call? : Frame → Option Nat
  | .body act _ => some act.context
  | .exit k => some k
  | .negated _ => none

theorem mem_exits : k ∈ exits frames ↔ .exit k ∈ frames := by
  unfold exits
  rw [List.mem_filterMap]
  constructor
  · rintro ⟨f, hf, hk⟩
    cases f with
    | exit j =>
      cases hk
      exact hf
    | body act goals => cases hk
    | negated height => cases hk
  · exact fun h => ⟨_, h, rfl⟩

/-- **A call is awaited**: there is something that it may still answer to. -/
def Scene.Awaits (a : Scene) (k : Nat) : Prop := k ∈ exits a.control.frames ∨ ∃ d ∈ a.choices, k ∈ exits d.after

/-! ## Frames and choices in their order -/

/-- **Frames in their order**: those of callers are older, and the calls that they answer are connected. -/
structure Threaded (n : Nat) (f : Forest) (frames : List Frame) : Prop where
  order : frames.Pairwise fun inner outer => ∀ j k, inner.call? = some j → outer.call? = some k → k ≤ j
  call : ∀ k ∈ exits frames, n ≤ k ∧ f.Connected k

/-- **A choice in its order**: its own call is answered first, and is newer than the calls of all choices below. -/
structure Choice.Strung (n : Nat) (f : Forest) (cs : List Choice) (d : Choice) : Prop where
  frames : Threaded n f d.after
  own : ∀ k, d.context? = some k → ∃ fs, d.after = .exit k :: fs
  newer : ∀ k, d.context? = some k → ∀ d' ∈ cs, ∀ j ∈ exits d'.after, j < k

def StrungAll (n : Nat) (f : Forest) : List Choice → Prop
  | [] => True
  | d :: cs => d.Strung n f cs ∧ StrungAll n f cs

theorem Threaded.change (h : Threaded n f frames) (hk : ∀ k ∈ exits frames, f.Connected k → g.Connected k) :
    Threaded n g frames := ⟨h.order, fun k hkf => ⟨(h.call k hkf).1, hk k hkf (h.call k hkf).2⟩⟩

theorem Threaded.tail {fr : Frame} (h : Threaded n f (fr :: fs)) : Threaded n f fs :=
  ⟨(List.pairwise_cons.1 h.order).2, fun k hk => h.call k (mem_exits.2 (List.mem_cons_of_mem _ (mem_exits.1 hk)))⟩

theorem Threaded.follows {goals : List (Goal Callee)} (h : Threaded n f (.body act goals :: fs))
    (hf : Follows act fs after) : Threaded n f after := by
  rcases hf with rfl | ⟨goals', rfl⟩
  · exact h.tail
  · exact ⟨List.pairwise_cons.2 ⟨(List.pairwise_cons.1 h.order).1, h.tail.order⟩, h.call⟩

theorem Threaded.negation (act : Activation) (goals : List (Goal Callee)) (height : Nat) :
    Threaded n f [.body act goals, .negated height] := by
  refine ⟨List.pairwise_cons.2 ⟨fun fr hfr j i _ hi => ?_, List.pairwise_singleton _ _⟩, fun k hk => nomatch hk⟩
  rw [List.mem_singleton.1 hfr] at hi
  cases hi

theorem Threaded.le_of_follows {goals : List (Goal Callee)} (h : Threaded n f (.body act goals :: fs))
    (hf : Follows act fs after) {fr : Frame} (hfr : fr ∈ after) (hk : fr.call? = some k) : k ≤ act.context := by
  have horder : ∀ fr ∈ fs, ∀ k, fr.call? = some k → k ≤ act.context := fun fr hfr k hk =>
    (List.pairwise_cons.1 h.order).1 fr hfr _ _ rfl hk
  rcases hf with rfl | ⟨goals', rfl⟩
  · exact horder fr hfr k hk
  · rcases List.mem_cons.1 hfr with rfl | hfr
    · cases hk
      exact Nat.le_refl _
    · exact horder fr hfr k hk

theorem exits_follows (goals : List (Goal Callee)) (hf : Follows act fs after) :
    exits after = exits (.body act goals :: fs) := by
  rcases hf with rfl | ⟨goals', rfl⟩ <;> rfl

theorem exits_enters {k height : Nat} (hf : Enters k height after frames) : exits frames = exits after := by
  rcases hf with rfl | ⟨act, goals, -, -, rfl⟩ <;> rfl

theorem Choice.Strung.change (h : d.Strung n f cs) (hk : ∀ k ∈ exits d.after, f.Connected k → g.Connected k) :
    d.Strung n g cs := ⟨h.frames.change hk, h.own, h.newer⟩

theorem Choice.Strung.again (h : d.Strung n f cs) (ha : c.after = d.after) (hc : c.context? = d.context?) :
    c.Strung n f cs :=
  ⟨ha ▸ h.frames, fun k hk => ha ▸ h.own k (hc ▸ hk), fun k hk => h.newer k (hc ▸ hk)⟩

theorem Choice.Strung.mem_exits (h : d.Strung n f cs) (hk : d.context? = some k) : k ∈ exits d.after := by
  obtain ⟨fs, hfs⟩ := h.own k hk
  rw [hfs]
  exact List.mem_cons_self

theorem Choice.Strung.negation (h : Threaded n f after) (cp : Checkpoint) : Choice.Strung n f cs ⟨cp, after, .negation⟩ :=
  ⟨h, (fun _ hk => nomatch hk), fun _ hk => nomatch hk⟩

/-- A call that is offered is newer than all that follows it, and than the calls of all choices. -/
theorem Choice.Strung.offered {cp : Checkpoint} {goal : Call} {tried : Bool} {untried : Untried}
    (h : Threaded n f after) (hle : ∀ fr ∈ after, ∀ j, fr.call? = some j → j ≤ k) (hk : n ≤ k) (hc : f.Connected k)
    (hnew : ∀ d ∈ cs, ∀ j ∈ exits d.after, j < k) :
    Choice.Strung n f cs ⟨cp, .exit k :: after, .call goal k tried untried⟩ := by
  refine ⟨⟨List.pairwise_cons.2 ⟨fun fr hfr i j hi hj => ?_, h.order⟩, fun j hj => ?_⟩, fun j hj => ?_, fun j hj => ?_⟩
  · cases hi
    exact hle fr hfr j hj
  · rcases List.mem_cons.1 hj with rfl | hj
    · exact ⟨hk, hc⟩
    · exact h.call j hj
  · cases hj
    exact ⟨after, rfl⟩
  · cases hj
    exact hnew

theorem Choice.Strung.enters (h : d.Strung n f cs) (hk : d.context? = some k) {height : Nat}
    (hf : Enters k height d.after frames) : Threaded n f frames := by
  rcases hf with rfl | ⟨act, goals, hctx, -, rfl⟩
  · exact h.frames
  · refine ⟨List.pairwise_cons.2 ⟨fun fr hfr j i hj hi => ?_, h.frames.order⟩, h.frames.call⟩
    -- the own exit comes first, and all that follows it is older
    obtain ⟨fs, hfs⟩ := h.own k hk
    cases hj
    rw [hctx]
    have horder := h.frames.order
    rw [hfs] at hfr horder
    rcases List.mem_cons.1 hfr with rfl | hfr
    · cases hi
      exact Nat.le_refl _
    · exact (List.pairwise_cons.1 horder).1 fr hfr _ _ rfl hi

theorem StrungAll.change : ∀ {cs : List Choice}, StrungAll n f cs →
    (∀ d ∈ cs, ∀ k ∈ exits d.after, f.Connected k → g.Connected k) → StrungAll n g cs
  | [], _, _ => trivial
  | _ :: _, ⟨hd, hcs⟩, hk =>
    ⟨hd.change (hk _ List.mem_cons_self), hcs.change fun d hd => hk d (List.mem_cons_of_mem _ hd)⟩

theorem StrungAll.drop : ∀ (i : Nat) {cs : List Choice}, StrungAll n f cs → StrungAll n f (cs.drop i)
  | 0, _, h => h
  | _ + 1, [], h => h
  | i + 1, _ :: _, ⟨_, hcs⟩ => StrungAll.drop i hcs

theorem StrungAll.call : ∀ {cs : List Choice}, StrungAll n f cs → ∀ d ∈ cs, ∀ k ∈ exits d.after,
    n ≤ k ∧ f.Connected k
  | [], _ => List.forall_mem_nil _
  | _ :: _, ⟨hd, hcs⟩ => List.forall_mem_cons.2 ⟨hd.frames.call, hcs.call⟩

theorem StrungAll.mem_exits : ∀ {cs : List Choice}, StrungAll n f cs → ∀ d ∈ cs, ∀ k, d.context? = some k →
    k ∈ exits d.after
  | [], _ => List.forall_mem_nil _
  | _ :: _, ⟨hd, hcs⟩ => List.forall_mem_cons.2 ⟨fun _ hk => hd.mem_exits hk, hcs.mem_exits⟩

/-- **The calls that a choice answers to are older than the choices above it.** -/
theorem StrungAll.newer : ∀ (i : Nat) {cs : List Choice}, StrungAll n f cs → ∀ c ∈ cs.take i, ∀ k, c.context? = some k →
    ∀ d ∈ cs.drop i, ∀ j ∈ exits d.after, j < k
  | 0, _, _ => fun _ hc => nomatch hc
  | _ + 1, [], _ => fun _ hc => nomatch hc
  | i + 1, c :: cs, ⟨hc, hcs⟩ => by
    intro c' hc' k hk d hd j hj
    rcases List.mem_cons.1 hc' with rfl | hc'
    · exact hc.newer k hk d (List.mem_of_mem_drop hd) j hj
    · exact hcs.newer i c' hc' k hk d hd j hj

/-! ## Scenes in their order -/

def Control.Strung (n : Nat) (f : Forest) (cs : List Choice) : Control → Prop
  | .run frames => Threaded n f frames
  | .backtrack => True
  | .ask i => i.choice.Strung n f cs

/-- **A scene in its order**, the contexts before `n` being older than the query. -/
structure Scene.Strung (n : Nat) (a : Scene) : Prop where
  balanced : a.tree.forest.Balanced
  size : n ≤ a.tree.forest.size
  control : a.control.Strung n a.tree.forest a.choices
  choices : StrungAll n a.tree.forest a.choices

theorem Control.Strung.change {c : Control} (h : c.Strung n f cs)
    (hk : ∀ k ∈ exits c.frames, f.Connected k → g.Connected k) : c.Strung n g cs := by
  cases c with
  | run frames => exact Threaded.change h hk
  | backtrack => trivial
  | ask i => exact Choice.Strung.change h hk

def Scene.Stands (a : Scene) : Prop :=
  ∀ frames, a.control = .run frames → Framed a.tree.forest a.choices frames

variable {a b : Scene} {t t' : Tree} {minds : Tree → Tree → Prop} {dd : Deed}

/-- **What is awaited is connected**, and of the query. -/
theorem Scene.Strung.awaited (h : a.Strung n) (hk : a.Awaits k) : n ≤ k ∧ a.tree.forest.Connected k := by
  rcases hk with hk | ⟨d, hd, hk⟩
  · have hc := h.control
    unfold Control.frames at hk
    split at hk
    · rename_i he
      rw [he] at hc
      exact Threaded.call hc k hk
    · cases hk
    · rename_i i he
      rw [he] at hc
      exact (Choice.Strung.frames hc).call k hk
  · exact h.choices.call d hd k hk

theorem Scene.Strung.lt_size (h : a.Strung n) (hk : a.Awaits k) : k < a.tree.forest.size :=
  (h.awaited hk).2.lt_size h.balanced.linked.sane

theorem Scene.Strung.pending {goal : Call} {tried : Bool} {untried : Untried} (h : Scene.Strung n ⟨.backtrack, d :: cs, t⟩)
    (hd : d.pending = .call goal k tried untried) : Scene.Awaits ⟨.backtrack, d :: cs, t⟩ k :=
  .inr ⟨d, List.mem_cons_self, h.choices.1.mem_exits (Choice.context?_of_call hd)⟩

theorem Scene.Strung.asked {i : Inquiry} (h : Scene.Strung n ⟨.ask i, cs, t⟩) : Scene.Awaits ⟨.ask i, cs, t⟩ i.context :=
  .inl (Choice.Strung.mem_exits h.control rfl)

/-! ## What is awaited after a change -/

/-- What runs or is asked for after a change answers to calls that have been awaited before. -/
theorem Turns.awaits_frames (ht : Turns minds a dd b) (hk : k ∈ exits b.control.frames) : a.Awaits k := by
  cases ht with
  | same | others _ _ | answered _ | misfit _ => exact .inl hk
  | exit => exact .inl (mem_exits.2 (List.mem_cons_of_mem _ (mem_exits.1 hk)))
  | go hf | cut hf _ => exact .inl (exits_follows _ hf ▸ hk)
  | undo _ | asks _ => exact .inr ⟨_, List.mem_cons_self, hk⟩
  | retry _ hf _ => exact .inr ⟨_, List.mem_cons_self, exits_enters hf ▸ hk⟩
  | fail | negate _ | negated _ | offer _ | giveUp _ | denied _ | solved | ended _ _ => cases hk

/-- So do the choices that are left and those that are made, but for the new call of an offer. -/
theorem Turns.awaits_after (ht : Turns minds a dd b) (hd : d ∈ b.choices) (hk : k ∈ exits d.after) :
    a.Awaits k ∨ k = a.tree.forest.size ∧ b.tree.forest.isLocallyStable k = false := by
  cases ht with
  | same | others _ _ | exit | go _ | fail | denied _ | misfit _ | solved => exact .inl (.inr ⟨d, hd, hk⟩)
  | cut _ _ | negated _ => exact .inl (.inr ⟨d, List.mem_of_mem_drop hd, hk⟩)
  | undo _ | giveUp _ | asks _ => exact .inl (.inr ⟨d, List.mem_cons_of_mem _ hd, hk⟩)
  | negate hf =>
    rcases List.mem_cons.1 hd with rfl | hd
    · exact .inl (.inl (exits_follows _ hf ▸ hk))
    · exact .inl (.inr ⟨d, hd, hk⟩)
  | @offer act goals fs after cs t cp goal untried hf =>
    rcases List.mem_cons.1 hd with rfl | hd
    · rcases List.mem_cons.1 (mem_exits.1 hk) with hk | hk
      · cases hk
        rw [Tree.forest_create]
        exact .inr ⟨rfl, Forest.isLocallyStable_create _ _⟩
      · exact .inl (.inl (exits_follows _ hf ▸ mem_exits.2 hk))
    · exact .inl (.inr ⟨d, hd, hk⟩)
  | retry _ _ hkeeps =>
    rcases hkeeps with rfl | ⟨cp, goal, untried, rfl⟩
    · exact .inl (.inr ⟨d, List.mem_cons_of_mem _ hd, hk⟩)
    · rcases List.mem_cons.1 hd with rfl | hd
      · exact .inl (.inr ⟨_, List.mem_cons_self, hk⟩)
      · exact .inl (.inr ⟨d, List.mem_cons_of_mem _ hd, hk⟩)
  | answered _ =>
    rcases List.mem_cons.1 hd with rfl | hd
    · exact .inl (.inl hk)
    · exact .inl (.inr ⟨d, hd, hk⟩)
  | ended _ _ => cases hd

/-- **Only old calls are awaited after a change, and a new one that is unstable.** -/
theorem Turns.awaits (ht : Turns minds a dd b) (hk : b.Awaits k) :
    a.Awaits k ∨ k = a.tree.forest.size ∧ b.tree.forest.isLocallyStable k = false := by
  rcases hk with hk | ⟨d, hd, hk⟩
  · exact .inl (ht.awaits_frames hk)
  · exact ht.awaits_after hd hk

/-! ## What a change does to the contexts -/

theorem forest_retried (t : Tree) (k : Nat) (tried : Bool) :
    (retried t k tried).forest = if tried then (t.forest.setStable k false).1 else t.forest := by
  unfold retried
  split
  · exact Tree.forest_setStable t k false
  · rfl

theorem heeds_retried (hb : t.forest.Balanced) (hk : k < t.forest.size) (tried : Bool) :
    (retried t k tried).forest.Balanced ∧ Forest.Heeds (· ≠ k) t.forest (retried t k tried).forest := by
  unfold retried
  split
  · exact Tree.heeds_setStable hb hk false
  · exact ⟨hb, .refl _ _⟩

theorem heeds_givenUp (hb : t.forest.Balanced) (hk : k < t.forest.size) (hne : k ≠ 0) (tried : Bool) :
    ((retried t k tried).detach k).forest.Balanced ∧
      Forest.Heeds (· ≠ k) t.forest ((retried t k tried).detach k).forest := by
  obtain ⟨hb', hh⟩ := heeds_retried hb hk tried
  obtain ⟨hend, hd⟩ := Tree.heeds_detach hb' hne
  exact ⟨hend, hh.trans (hd.weaken fun _ _ => trivial)⟩

theorem heeds_ended (hb : t.forest.Balanced) {ids : List Nat} (hids : ∀ id ∈ ids, id ≠ 0) :
    (((ids.foldl Tree.detach t).clear 0).setStable 0 true).forest.Balanced ∧
      Forest.Heeds (· ≠ 0) t.forest (((ids.foldl Tree.detach t).clear 0).setStable 0 true).forest := by
  obtain ⟨hb₁, hgiven⟩ := Tree.heeds_detachAll ids t hb hids
  obtain ⟨hb₂, hclear⟩ := Tree.heeds_clear hb₁ 0
  obtain ⟨hb₃, hset⟩ := Tree.heeds_setStable hb₂ hb₂.linked.sane.root true
  exact ⟨hb₃, ((hgiven.trans hclear).weaken fun _ _ => trivial).trans hset⟩

theorem connected_retried (t : Tree) (k : Nat) (tried : Bool) {j : Nat} (hj : t.forest.Connected j) :
    (retried t k tried).forest.Connected j := by
  rw [forest_retried]
  split
  · exact connected_setStable t.forest k false hj
  · exact hj

theorem connected_create {p j : Nat} (hp : p < t.forest.size) (hj : t.forest.Connected j) :
    (t.create p).2.forest.Connected j := by
  rw [Tree.forest_create]
  exact hj.mono fun _ _ hi => (Forest.mem_children_create hp).2 (.inl hi)

theorem connected_created {p : Nat} (hc : t.forest.Connected p) (hp : p < t.forest.size) :
    (t.create p).2.forest.Connected t.forest.size := by
  refine .child (connected_create hp hc) ?_
  rw [Tree.forest_create]
  exact (Forest.mem_children_create hp).2 (.inr ⟨rfl, rfl⟩)

theorem Choice.Strung.keeps (h : d.Strung n f cs) (hk : d.context? = some k) (hcs : StrungAll n f cs)
    {cs' : List Choice} (hkeeps : Keeps k d.after cs cs') : StrungAll n f cs' := by
  rcases hkeeps with rfl | ⟨cp, goal, untried, rfl⟩
  · exact hcs
  · exact ⟨h.again rfl hk.symm, hcs⟩

/-- **Taking away contexts of given-up choices** leaves connected what is older. -/
theorem connected_given {ids : List Nat} (hb : t.forest.Balanced) {up : List Choice}
    (hids : ∀ id ∈ ids, ∃ d ∈ up, d.context? = some id) {j : Nat}
    (hj : ∀ d ∈ up, ∀ id, id ∈ ids → d.context? = some id → j < id) (hc : t.forest.Connected j) :
    (ids.foldl Tree.detach t).forest.Connected j := by
  refine connected_detachAll ids t hb.linked.sane (fun id hid => ?_) hc
  obtain ⟨d, hd, hdid⟩ := hids id hid
  exact hj d hd id hid hdid

theorem StrungAll.context_ne_zero (hn : 0 < n) (h : StrungAll n f cs) (hd : d ∈ cs) (hk : d.context? = some k) :
    k ≠ 0 := by
  have hle := (h.call d hd k (h.mem_exits d hd k hk)).1
  omega

theorem StrungAll.ne_zero (hn : 0 < n) (h : StrungAll n f cs) {ids : List Nat} {up : List Choice} (hup : up ⊆ cs)
    (hids : ∀ id ∈ ids, ∃ d ∈ up, d.context? = some id) : ∀ id ∈ ids, id ≠ 0 := by
  intro id hid
  obtain ⟨d, hd, hdid⟩ := hids id hid
  exact h.context_ne_zero hn (hup hd) hdid

theorem StrungAll.given (hn : 0 < n) (h : StrungAll n f cs) (hb : t.forest.Balanced) {ids : List Nat} {up : List Choice}
    (hup : up ⊆ cs) (hids : ∀ id ∈ ids, ∃ d ∈ up, d.context? = some id) :
    (ids.foldl Tree.detach t).forest.Balanced ∧
      Forest.Heeds (fun _ => True) t.forest (ids.foldl Tree.detach t).forest :=
  Tree.heeds_detachAll ids t hb (h.ne_zero hn hup hids)

/-- **A change keeps the flags of all old calls** but of the one that answers or is tried again. -/
theorem Turns.heeds (hn : 0 < n) (hminds : ∀ t u, minds t u → Forest.Minds n t.forest u.forest) (h : a.Strung n)
    (hs : a.Stands) (ht : Turns minds a dd b) : b.tree.forest.Balanced ∧
      Forest.Heeds (fun k => n ≤ k ∧ dd ≠ .answer k ∧ dd ≠ .retry k) a.tree.forest b.tree.forest := by
  have hb := h.balanced
  have hcs := h.choices
  cases ht with
  | same | go _ | fail | negate _ | undo _ | solved => exact ⟨hb, .refl _ _⟩
  | others hm _ | answered hm | misfit hm =>
    obtain ⟨hb', hh⟩ := (hminds _ _ hm).heeds hb
    exact ⟨hb', hh.weaken fun _ hj => hj.1⟩
  | exit =>
    obtain ⟨hb', hh⟩ := Tree.heeds_setStable hb (h.lt_size (.inl (mem_exits.2 List.mem_cons_self))) true
    exact ⟨hb', hh.weaken fun j hj hjk => hj.2.1 (hjk ▸ rfl)⟩
  | cut _ hids =>
    obtain ⟨hb', hh⟩ := hcs.given hn hb (List.take_subset _ _) fun id hid => ((hids id).1 hid).2
    exact ⟨hb', hh.weaken fun _ _ => trivial⟩
  | negated hids =>
    obtain ⟨hb', hh⟩ := hcs.given hn hb (List.take_subset _ _) fun id => (hids id).1
    exact ⟨hb', hh.weaken fun _ _ => trivial⟩
  | offer _ =>
    obtain ⟨hb', hh⟩ := Tree.heeds_create hb (((hs _ rfl).stands _ List.mem_cons_self).1.lt_size hb.linked.sane)
    exact ⟨hb', hh.weaken fun _ _ => trivial⟩
  | giveUp hp =>
    have hk := h.awaited (h.pending hp)
    obtain ⟨hb', hh⟩ := heeds_givenUp hb (hk.2.lt_size hb.linked.sane) (by omega) _
    exact ⟨hb', hh.weaken fun j hj hjk => hj.2.2 (hjk ▸ rfl)⟩
  | retry hp _ _ | asks hp =>
    obtain ⟨hb', hh⟩ := heeds_retried hb (h.lt_size (h.pending hp)) _
    exact ⟨hb', hh.weaken fun j hj hjk => hj.2.2 (hjk ▸ rfl)⟩
  | denied hm =>
    obtain ⟨hb₁, hminded⟩ := (hminds _ _ hm).heeds hb
    obtain ⟨hb', hd⟩ := Tree.heeds_detach hb₁ (Nat.ne_of_gt (Nat.lt_of_lt_of_le hn (h.awaited h.asked).1))
    exact ⟨hb', (hminded.weaken fun _ hj => hj.1).trans (hd.weaken fun _ _ => trivial)⟩
  | ended hm hids =>
    obtain ⟨hb₁, hminded⟩ := (hminds _ _ hm).heeds hb
    obtain ⟨hb', hd⟩ := heeds_ended hb₁ (hcs.ne_zero hn (List.Subset.refl _) fun id => (hids id).1)
    exact ⟨hb', (hminded.weaken fun _ hj => hj.1).trans
      (hd.weaken fun _ hj => Nat.ne_of_gt (Nat.lt_of_lt_of_le hn hj.1))⟩

/-- **What is connected stays so as long as it is awaited**: what is taken away is newer. -/
theorem Turns.connected (hminds : ∀ t u, minds t u → Forest.Minds n t.forest u.forest) (h : a.Strung n) (hs : a.Stands)
    (ht : Turns minds a dd b) (hc : a.tree.forest.Connected k) (hk : b.Awaits k) : b.tree.forest.Connected k := by
  have hb := h.balanced
  have hcs := h.choices
  have hminded : ∀ {t u : Tree}, t.forest.Balanced → minds t u → t.forest.Connected k → u.forest.Connected k :=
    fun hb hm => ((hminds _ _ hm).spares.spared hb.linked.sane).connected
  cases ht with
  | same | go _ | fail | negate _ | undo _ | solved => exact hc
  | others hm _ | answered hm | misfit hm => exact hminded hb hm hc
  | exit =>
    rw [Tree.forest_setStable]
    exact connected_setStable _ _ _ hc
  | @cut act goals fs after cs t ids hf hids =>
    refine connected_given hb (fun id hid => ((hids id).1 hid).2) (fun d hd id hid hdid => ?_) hc
    rcases hk with hk | ⟨d', hd', hk⟩
    · -- what the rule answers to is no newer than its own context, and the choices above its barrier are newer
      have hle := Threaded.le_of_follows h.control hf (mem_exits.1 hk) rfl
      have hge := ((hs _ rfl).stands (.body act goals) List.mem_cons_self).2 d hd id hdid
      have hne := ((hids id).1 hid).1
      omega
    · exact hcs.newer _ d hd id hdid d' hd' k hk
  | negated hids =>
    rcases hk with hk | ⟨d', hd', hk⟩
    · cases hk
    · exact connected_given hb (fun id => (hids id).1) (fun d hd id _ hdid => hcs.newer _ d hd id hdid d' hd' k hk) hc
  | offer _ => exact connected_create (((hs _ rfl).stands _ List.mem_cons_self).1.lt_size hb.linked.sane) hc
  | @giveUp d goal j tried untried cs t hp =>
    rcases hk with hk | ⟨d', hd', hk⟩
    · cases hk
    · have hb' := (heeds_retried hb (h.lt_size (h.pending hp)) tried).1
      rw [Tree.forest_detach]
      exact connected_detach hb'.linked.sane (hcs.1.newer _ (Choice.context?_of_call hp) d' hd' k hk)
        (connected_retried _ _ _ hc)
  | retry _ _ _ | asks _ => exact connected_retried _ _ _ hc
  | denied hm =>
    rcases hk with hk | ⟨d', hd', hk⟩
    · cases hk
    · rw [Tree.forest_detach]
      exact connected_detach ((hminds _ _ hm).heeds hb).1.linked.sane
        (Choice.Strung.newer h.control _ rfl d' hd' k hk) (hminded hb hm hc)
  | ended _ _ =>
    rcases hk with hk | ⟨d', hd', -⟩
    · cases hk
    · cases hd'

/-- **Every change keeps a scene in its order.** -/
theorem Scene.Strung.turns (hn : 0 < n) (hminds : ∀ t u, minds t u → Forest.Minds n t.forest u.forest) (h : a.Strung n)
    (hs : a.Stands) (ht : Turns minds a dd b) : b.Strung n := by
  obtain ⟨hb', hh⟩ := ht.heeds hn hminds h hs
  have hsize := Nat.le_trans h.size hh.size
  -- what is in its order among the old contexts stays so; only an offer has a new one
  have hold : b.control.Strung n a.tree.forest b.choices → StrungAll n a.tree.forest b.choices → b.Strung n :=
    fun hc hcs => ⟨hb', hsize, hc.change fun k hk hck => ht.connected hminds h hs hck (.inl hk),
      hcs.change fun d hd k hk hck => ht.connected hminds h hs hck (.inr ⟨d, hd, hk⟩)⟩
  obtain ⟨hb, hle, hc, hcs⟩ := h
  cases ht with
  | same | others _ _ => exact hold hc hcs
  | exit => exact hold (Threaded.tail hc) hcs
  | go hf => exact hold (Threaded.follows hc hf) hcs
  | fail | solved | denied _ => exact hold trivial hcs
  | cut hf _ => exact hold (Threaded.follows hc hf) (hcs.drop _)
  | negate hf => exact hold (.negation _ _ _) ⟨.negation (Threaded.follows hc hf) _, hcs⟩
  | negated _ => exact hold trivial (hcs.drop _)
  | @offer act goals fs after cs t cp goal untried hf =>
    have hp := ((hs _ rfl).stands (.body act goals) List.mem_cons_self).1
    have hlt := hp.lt_size hb.linked.sane
    refine ⟨hb', hsize, trivial, .offered ((Threaded.follows hc hf).change fun _ _ => connected_create hlt) ?_
      hle (connected_created hp hlt) ?_, hcs.change fun _ _ _ _ => connected_create hlt⟩
    · exact fun fr hfr j hj => Nat.le_of_lt (Nat.lt_of_le_of_lt (Threaded.le_of_follows hc hf hfr hj) hlt)
    · exact fun d hd j hj => (hcs.call d hd j hj).2.lt_size hb.linked.sane
  | undo _ => exact hold hcs.1.frames hcs.2
  | giveUp _ => exact hold trivial hcs.2
  | retry hp hf hkeeps =>
    have hctx := Choice.context?_of_call hp
    exact hold (hcs.1.enters hctx hf) (hcs.1.keeps hctx hcs.2 hkeeps)
  | asks hp => exact hold (hcs.1.again rfl (Choice.context?_of_call hp).symm) hcs.2
  | answered _ => exact hold (Choice.Strung.frames hc) ⟨Choice.Strung.again hc rfl rfl, hcs⟩
  | misfit _ => exact hold (Choice.Strung.again hc rfl rfl) hcs
  | ended _ _ => exact hold trivial trivial

/-! ## Calls of which nothing has been tried -/

/-- The context of a call of which nothing has been tried. -/
def Choice.fresh? (d : Choice) : Option Nat :=
  match d.pending with
  | .call _ k false _ => some k
  | _ => none

/-- **A call that has been laid out is tried at once**, and is not stable until then. -/
structure Scene.Prompt (a : Scene) : Prop where
  running : a.control ≠ .backtrack → ∀ d ∈ a.choices, d.fresh? = none
  below : ∀ d ∈ a.choices.tail, d.fresh? = none
  unstable : ∀ d ∈ a.choices, ∀ k, d.fresh? = some k → a.tree.forest.isLocallyStable k = false

theorem context_of_fresh (h : d.fresh? = some k) : d.context? = some k := by
  unfold Choice.fresh? at h
  unfold Choice.context?
  split at h
  · rename_i hp
    cases h
    rw [hp]
  · cases h

theorem prompt_of_tried {c : Control} (h : ∀ d ∈ cs, d.fresh? = none) : Scene.Prompt ⟨c, cs, t⟩ :=
  ⟨fun _ => h, fun d hd => h d (List.mem_of_mem_tail hd), fun d hd k hk => by rw [h d hd] at hk; cases hk⟩

theorem Scene.Prompt.keeps {after : List Frame} (h : ∀ d ∈ cs, d.fresh? = none) {cs' : List Choice}
    (hkeeps : Keeps k after cs cs') : ∀ d ∈ cs', d.fresh? = none := by
  rcases hkeeps with rfl | ⟨cp, goal, untried, rfl⟩
  · exact h
  · exact List.forall_mem_cons.2 ⟨rfl, h⟩

theorem Scene.Prompt.turns (hminds : ∀ t u, minds t u → Forest.Minds n t.forest u.forest) (h : a.Strung n) (hp : a.Prompt)
    (ht : Turns minds a dd b) : b.Prompt := by
  obtain ⟨hb, -, hc, hcs⟩ := h
  have hrun : a.control ≠ .backtrack → ∀ d ∈ a.choices, d.fresh? = none := hp.running
  cases ht with
  | same => exact hp
  | @others c cs t t' hm hask =>
    refine ⟨hrun, hp.below, fun d hd k hk => ?_⟩
    have hcall := hcs.call d hd k (hcs.mem_exits d hd k (context_of_fresh hk))
    rw [((hminds _ _ hm).heeds hb).2.flags k hcall.1 (hcall.2.lt_size hb.linked.sane)]
    exact hp.unstable d hd k hk
  | exit => exact prompt_of_tried (hrun fun h => nomatch h)
  | go hf => exact prompt_of_tried (hrun fun h => nomatch h)
  | fail => exact prompt_of_tried (hrun fun h => nomatch h)
  | cut hf hids => exact prompt_of_tried fun d hd => hrun (fun h => nomatch h) d (List.mem_of_mem_drop hd)
  | negate hf => exact prompt_of_tried (List.forall_mem_cons.2 ⟨rfl, hrun fun h => nomatch h⟩)
  | negated hids => exact prompt_of_tried fun d hd => hrun (fun h => nomatch h) d (List.mem_of_mem_drop hd)
  | @offer act goals fs after cs t cp goal untried hf =>
    have hold : ∀ d ∈ cs, d.fresh? = none := hrun fun h => nomatch h
    refine ⟨fun hne => absurd rfl hne, hold, fun d hd k hk => ?_⟩
    rcases List.mem_cons.1 hd with rfl | hd
    · cases hk
      rw [Tree.forest_create]
      exact Forest.isLocallyStable_create _ _
    · rw [hold d hd] at hk
      cases hk
  | undo h => exact prompt_of_tried hp.below
  | giveUp h => exact prompt_of_tried hp.below
  | retry h hf hkeeps => exact prompt_of_tried (Scene.Prompt.keeps hp.below hkeeps)
  | asks h => exact prompt_of_tried hp.below
  | denied hm => exact prompt_of_tried (hrun fun h => nomatch h)
  | answered hm => exact prompt_of_tried (List.forall_mem_cons.2 ⟨rfl, hrun fun h => nomatch h⟩)
  | misfit hm => exact prompt_of_tried (hrun fun h => nomatch h)
  | solved => exact prompt_of_tried (hrun fun h => nomatch h)
  | ended hm hids => exact prompt_of_tried (List.forall_mem_nil _)

/-! ## What a change does to the calls -/

/-- **What a change does to the calls**: whether an old call is stable itself changes only if it answers or is tried
again, it is awaited only if it has been before, and nothing is connected again; a new call is unstable. -/
structure Effects (n : Nat) (a : Scene) (dd : Deed) (b : Scene) : Prop where
  heeds : Forest.Heeds (fun k => n ≤ k ∧ dd ≠ .answer k ∧ dd ≠ .retry k) a.tree.forest b.tree.forest
  awaits : ∀ k, k < a.tree.forest.size → b.Awaits k → a.Awaits k
  fresh : ∀ k, a.tree.forest.size ≤ k → b.Awaits k → b.tree.forest.isLocallyStable k = false
  answers : ∀ k, dd = .answer k → a.Awaits k ∧ b.tree.forest.isLocallyStable k = true
  retries : ∀ k, dd = .retry k → a.Awaits k ∧ b.tree.forest.isLocallyStable k = false ∧
    (b.Awaits k ∨ ¬ b.tree.forest.Connected k)

theorem isLocallyStable_retried (hk : k < t.forest.size) {tried : Bool}
    (h : tried = false → t.forest.isLocallyStable k = false) : (retried t k tried).forest.isLocallyStable k = false := by
  rw [forest_retried]
  split
  · exact Forest.isLocallyStable_setStable hk false
  · rename_i hn
    exact h (Bool.eq_false_iff.2 hn)

theorem Scene.Prompt.retried {goal : Call} {tried : Bool} {untried : Untried}
    (h : Scene.Strung n ⟨.backtrack, d :: cs, t⟩) (hp : Scene.Prompt ⟨.backtrack, d :: cs, t⟩)
    (hd : d.pending = .call goal k tried untried) : (retried t k tried).forest.isLocallyStable k = false := by
  refine isLocallyStable_retried (h.lt_size (h.pending hd)) fun htried => ?_
  have hfresh : d.fresh? = some k := by
    unfold Choice.fresh?
    rw [hd, htried]
  exact hp.unstable d List.mem_cons_self k hfresh

/-- **A call that answers** has been awaited, and is stable from then on. -/
theorem Turns.answers (h : a.Strung n) (ht : Turns minds a (.answer k) b) :
    a.Awaits k ∧ b.tree.forest.isLocallyStable k = true := by
  cases ht with
  | @exit k fs cs t =>
    have hk : Scene.Awaits ⟨.run (.exit k :: fs), cs, t⟩ k := .inl (mem_exits.2 List.mem_cons_self)
    refine ⟨hk, ?_⟩
    rw [Tree.forest_setStable]
    exact Forest.isLocallyStable_setStable (h.lt_size hk) true

/-- **A call that is tried again** has been awaited, and is unstable from then on; it is still awaited, or taken away. -/
theorem Turns.retries (hn : 0 < n) (h : a.Strung n) (hp : a.Prompt) (ht : Turns minds a (.retry k) b) :
    a.Awaits k ∧ b.tree.forest.isLocallyStable k = false ∧ (b.Awaits k ∨ ¬ b.tree.forest.Connected k) := by
  cases ht with
  | @giveUp d goal k tried untried cs t hd =>
    have hk := h.pending hd
    have hne : k ≠ 0 := Nat.ne_of_gt (Nat.lt_of_lt_of_le hn (h.awaited hk).1)
    obtain ⟨hb', hh⟩ := heeds_retried h.balanced (h.lt_size hk) tried
    refine ⟨hk, ?_, .inr ?_⟩
    · -- the context is detached after it has been said to be unstable
      have hflags := (Tree.heeds_detach hb' hne).2.flags k trivial (Nat.lt_of_lt_of_le (h.lt_size hk) hh.size)
      exact hflags.trans (hp.retried h hd)
    · rw [Tree.forest_detach]
      exact Forest.not_connected_detach hb'.linked hne
  | retry hd hf _ =>
    have hmem := h.choices.1.mem_exits (Choice.context?_of_call hd)
    exact ⟨h.pending hd, hp.retried h hd, .inl (.inl (exits_enters hf ▸ hmem))⟩
  | asks hd =>
    have hmem := h.choices.1.mem_exits (Choice.context?_of_call hd)
    exact ⟨h.pending hd, hp.retried h hd, .inl (.inl hmem)⟩

/-- **What every change does to the calls.** -/
theorem Turns.effects (hn : 0 < n) (hminds : ∀ t u, minds t u → Forest.Minds n t.forest u.forest) (h : a.Strung n) (hs : a.Stands)
    (hp : a.Prompt) (ht : Turns minds a dd b) : Effects n a dd b := by
  refine ⟨(ht.heeds hn hminds h hs).2, fun k hk hkb => ?_, fun k hk hkb => ?_, fun k he => ?_, fun k he => ?_⟩
  · exact (ht.awaits hkb).resolve_right fun hnew => Nat.ne_of_lt hk hnew.1
  · exact ((ht.awaits hkb).resolve_left fun hka => Nat.not_lt.2 hk (h.lt_size hka)).2
  · subst he
    exact ht.answers h
  · subst he
    exact ht.retries hn h hp

end Remedy.Query
