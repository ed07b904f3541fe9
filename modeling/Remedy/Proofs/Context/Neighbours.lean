import Remedy.Proofs.Context.Waiting
/-!
# Proofs.Context.Neighbours — contexts of one's own among those of others

Whoever works in a tree of contexts has some of them for himself.  An operation `Heeds` them if it does not change
whether they are stable themselves, and connects none of the contexts that there are: only new ones are connected, and
others are taken away.  `Minds` is what others do who leave the contexts from a number on to somebody else, but for those
that they make themselves.
-/
namespace Remedy.Context

namespace Forest

variable {f g h : Forest} {own : Nat → Prop} {k : Nat}

/-- **A change that heeds some contexts.** -/
structure Heeds (own : Nat → Prop) (f g : Forest) : Prop where
  size : f.size ≤ g.size
  flags : ∀ k, own k → k < f.size → g.isLocallyStable k = f.isLocallyStable k
  connected : ∀ k, k < f.size → g.Connected k → f.Connected k

theorem Heeds.refl (own : Nat → Prop) (f : Forest) : Heeds own f f := ⟨Nat.le_refl _, fun _ _ _ => rfl, fun _ _ => id⟩

theorem Heeds.trans (h₁ : Heeds own f g) (h₂ : Heeds own g h) : Heeds own f h :=
  ⟨Nat.le_trans h₁.size h₂.size,
    fun k ho hk => (h₂.flags k ho (Nat.lt_of_lt_of_le hk h₁.size)).trans (h₁.flags k ho hk),
    fun k hk hc => h₁.connected k hk (h₂.connected k (Nat.lt_of_lt_of_le hk h₁.size) hc)⟩

theorem Heeds.weaken {own' : Nat → Prop} (hh : Heeds own f g) (hsub : ∀ k, own' k → own k) : Heeds own' f g :=
  ⟨hh.size, fun k ho => hh.flags k (hsub k ho), hh.connected⟩

theorem heeds_of_view (hsize : g.size = f.size) (hl : ∀ k, own k → g.view Node.localStable k = f.view Node.localStable k)
    (hc : ∀ p k, k ∈ g.children p → k ∈ f.children p) : Heeds own f g :=
  ⟨Nat.le_of_eq hsize.symm, fun k ho _ => has_congr (hl k ho), fun _ _ hk => hk.mono hc⟩

theorem view_localStable_setStable (f : Forest) {id : Nat} (b : Bool) (hk : k ≠ id) :
    (f.setStable id b).1.view Node.localStable k = f.view Node.localStable k := by
  unfold setStable
  rw [settleFrom, view_settle fun _ _ => rfl]
  unfold view
  rw [node?_update, if_neg (Ne.symm hk)]

theorem heeds_setStable (f : Forest) (id : Nat) (b : Bool) : Heeds (· ≠ id) f (f.setStable id b).1 :=
  heeds_of_view (size_setStable f id b) (fun _ hk => view_localStable_setStable f b hk)
    fun p _ hk => children_setStable f id b p ▸ hk

theorem isLocallyStable_setStable {id : Nat} (hid : id < f.size) (b : Bool) :
    (f.setStable id b).1.isLocallyStable id = b := by
  have hdeclare : (f.setStable id b).1.isLocallyStable id = (f.declare id b).isLocallyStable id :=
    has_congr (view_settle (fun _ _ => rfl) id _ id (f.declare id b))
  rw [hdeclare]
  obtain ⟨n, hn⟩ := exists_node hid
  unfold isLocallyStable has declare
  rw [node?_update, if_pos rfl, hn]
  rfl

theorem heeds_detach (f : Forest) (id : Nat) : Heeds own f (f.detach id).1 := by
  refine heeds_of_view (size_detach f id) (fun k _ => view_detach (fun _ _ => rfl) (fun _ _ => rfl) (fun _ _ => rfl) f id k)
    fun p k hk => ?_
  rcases children_detach f id p with hc | hc
  · exact hc ▸ hk
  · rw [hc] at hk
    exact (List.mem_filter.1 hk).1

theorem heeds_clear (f : Forest) (id : Nat) : Heeds own f (f.clear id).1 := by
  refine heeds_of_view (size_clear f id) (fun k _ => view_clear (fun _ _ => rfl) (fun _ _ => rfl) (fun _ _ => rfl) f id k)
    fun p k hk => ?_
  rw [children_clear] at hk
  split at hk
  · cases hk
  · exact hk

theorem heeds_setSuspended (f : Forest) (id : Nat) (b : Bool) : Heeds own f (f.setSuspended id b).1 :=
  heeds_of_view (size_setSuspended f id b) (fun k _ => view_setSuspended (fun _ _ => rfl) (fun _ _ => rfl) f id b k)
    fun p _ hk => children_setSuspended f id b p ▸ hk

theorem heeds_cancel (hs : f.Sane) (id : Nat) : Heeds own f (f.cancel id).1 :=
  heeds_of_view (size_cancel hs id) (fun k _ => view_cancel (fun _ => rfl) f id k)
    fun p _ hk => children_cancel hs id p ▸ hk

/-- **A new context** is a child of one that there is, and has none itself. -/
theorem heeds_create (hs : f.Sane) {parent : Nat} (hp : parent < f.size) : Heeds own f (f.create parent).1 := by
  refine ⟨size_create f parent ▸ Nat.le_succ _, fun k _ hk => has_congr ?_, fun k hk hc => ?_⟩
  · rw [view_create (fun _ _ => rfl) (fun _ _ => rfl), if_neg (Nat.ne_of_lt hk)]
  · refine hc.of_older (hs.create hp) (fun p j hj hjp => ?_) hk
    rcases (mem_children_create hp).1 hjp with hjp | ⟨-, rfl⟩
    · exact hjp
    · exact absurd hj (Nat.lt_irrefl _)

theorem isLocallyStable_create (f : Forest) (parent : Nat) : (f.create parent).1.isLocallyStable f.size = false := by
  rw [isLocallyStable, has_eq, view_create (fun _ _ => rfl) (fun _ _ => rfl), if_pos rfl]
  rfl

/-- **What has been taken away is not connected any more.** -/
theorem not_connected_detach (hl : f.Linked) (hk : k ≠ 0) : ¬ (f.detach k).1.Connected k := by
  intro hc
  cases hc with
  | root => exact hk rfl
  | @child p k _ hkp =>
    have hkf : k ∈ f.children p := by
      rcases children_detach f k p with hc | hc
      · exact hc ▸ hkp
      · rw [hc] at hkp
        exact (List.mem_filter.1 hkp).1
    obtain ⟨n, hn⟩ := exists_node (hl.sane.present hkf)
    have hattached : n.attached = true := by
      have ha := hl.attached hkf
      rw [isAttached, has, hn] at ha
      exact ha
    have hparent : n.parent = some p := by
      have hp := hl.parent hkf
      rw [parent?, view, hn] at hp
      exact hp
    have hchildren : (f.detach k).1.children p = (f.children p).filter (· != k) := by
      unfold Forest.detach
      simp only [hn, hattached, hparent]
      rw [if_neg (by decide), children_settleFrom, children_update (f.release _) p (List.filter (· != k)) (.inl rfl),
        children_release, if_pos rfl]
    rw [hchildren] at hkp
    have hne := (List.mem_filter.1 hkp).2
    simp at hne

theorem connected_clear (hc : (f.clear 0).1.Connected k) : k = 0 := by
  have hroot : (f.clear 0).1.children 0 = [] := by rw [children_clear, if_pos rfl]
  induction hc with
  | root => rfl
  | child _ hk ih =>
    rw [ih, hroot] at hk
    cases hk

/-- **What others may do** to contexts of which those from the number `n` on are not theirs, but for those that they
make themselves. -/
inductive Minds (n : Nat) (f : Forest) : Forest → Prop
  | refl : Minds n f f
  | create {g : Forest} (h : Minds n f g) {parent : Nat} (hp : parent < g.size) : Minds n f (g.create parent).1
  | setStable {g : Forest} (h : Minds n f g) {id : Nat} (hid : id < n ∨ f.size ≤ id) (hp : id < g.size) (b : Bool) :
    Minds n f (g.setStable id b).1
  | setSuspended {g : Forest} (h : Minds n f g) (id : Nat) (b : Bool) : Minds n f (g.setSuspended id b).1
  | cancel {g : Forest} (h : Minds n f g) (id : Nat) : Minds n f (g.cancel id).1
  | clear {g : Forest} (h : Minds n f g) {id : Nat} (hid : f.size ≤ id) : Minds n f (g.clear id).1
  | detach {g : Forest} (h : Minds n f g) {id : Nat} (hid : f.size ≤ id) : Minds n f (g.detach id).1

variable {n : Nat}

theorem Minds.spares (hm : Minds n f g) : Spares f g := by
  induction hm with
  | refl => exact .refl
  | create _ hp ih => exact ih.create hp
  | setStable _ hid hp b ih => exact ih.setStable _ b
  | setSuspended _ id b ih => exact ih.setSuspended id b
  | cancel _ id ih => exact ih.cancel id
  | clear _ hid ih => exact ih.clear hid
  | detach _ hid ih => exact ih.detach hid

/-- **Others leave the contexts balanced** and heed those that are not theirs. -/
theorem Minds.heeds (hm : Minds n f g) (hb : f.Balanced) : g.Balanced ∧ Heeds (n ≤ ·) f g := by
  induction hm with
  | refl => exact ⟨hb, .refl _ _⟩
  | create _ hp ih => exact ⟨(ih.1.create hp).1, ih.2.trans (heeds_create ih.1.linked.sane hp)⟩
  | @setStable g _ id hid hp b ih =>
    refine ⟨(ih.1.setStable hp b).1, Nat.le_trans ih.2.size (Nat.le_of_eq (size_setStable g id b).symm), fun k hk hkf => ?_,
      fun k hk hc => ?_⟩
    · have hne : k ≠ id := by omega
      exact ((heeds_setStable g id b).flags k hne (Nat.lt_of_lt_of_le hkf ih.2.size)).trans (ih.2.flags k hk hkf)
    · exact ih.2.connected k hk ((heeds_setStable g id b).connected k (Nat.lt_of_lt_of_le hk ih.2.size) hc)
  | setSuspended _ id b ih => exact ⟨ih.1.setSuspended id b, ih.2.trans (heeds_setSuspended _ id b)⟩
  | cancel _ id ih => exact ⟨ih.1.cancel id, ih.2.trans (heeds_cancel ih.1.linked.sane id)⟩
  | clear _ hid ih => exact ⟨(ih.1.clear _).1, ih.2.trans (heeds_clear _ _)⟩
  | detach _ hid ih =>
    have hid : _ ≠ 0 := Nat.ne_of_gt (Nat.lt_of_lt_of_le hb.linked.sane.root hid)
    exact ⟨(ih.1.detach hid).1, ih.2.trans (heeds_detach _ _)⟩

end Forest

namespace Tree

variable {t u v : Tree} {id : Nat}

theorem forest_setStable (t : Tree) (id : Nat) (b : Bool) : (t.setStable id b).forest = (t.forest.setStable id b).1 :=
  forest_change _ _

theorem forest_detach (t : Tree) (id : Nat) : (t.detach id).forest = (t.forest.detach id).1 := forest_change _ _

theorem forest_clear (t : Tree) (id : Nat) : (t.clear id).forest = (t.forest.clear id).1 := forest_change _ _

theorem forest_create (t : Tree) (parent : Nat) : (t.create parent).2.forest = (t.forest.create parent).1 :=
  forest_change _ _

theorem heeds_setStable (hb : t.forest.Balanced) (hid : id < t.forest.size) (b : Bool) :
    (t.setStable id b).forest.Balanced ∧ Forest.Heeds (· ≠ id) t.forest (t.setStable id b).forest := by
  rw [forest_setStable]
  exact ⟨(hb.setStable hid b).1, Forest.heeds_setStable _ _ _⟩

theorem heeds_detach (hb : t.forest.Balanced) (hid : id ≠ 0) :
    (t.detach id).forest.Balanced ∧ Forest.Heeds (fun _ => True) t.forest (t.detach id).forest := by
  rw [forest_detach]
  exact ⟨(hb.detach hid).1, Forest.heeds_detach _ _⟩

theorem heeds_clear (hb : t.forest.Balanced) (id : Nat) :
    (t.clear id).forest.Balanced ∧ Forest.Heeds (fun _ => True) t.forest (t.clear id).forest := by
  rw [forest_clear]
  exact ⟨(hb.clear id).1, Forest.heeds_clear _ _⟩

theorem heeds_create (hb : t.forest.Balanced) (hid : id < t.forest.size) :
    (t.create id).2.forest.Balanced ∧ Forest.Heeds (fun _ => True) t.forest (t.create id).2.forest := by
  rw [forest_create]
  exact ⟨(hb.create hid).1, Forest.heeds_create hb.linked.sane hid⟩

theorem heeds_detachAll : ∀ (ids : List Nat) (t : Tree), t.forest.Balanced → (∀ id ∈ ids, id ≠ 0) →
    (ids.foldl detach t).forest.Balanced ∧ Forest.Heeds (fun _ => True) t.forest (ids.foldl detach t).forest
  | [], t, hb, _ => ⟨hb, .refl _ _⟩
  | id :: ids, t, hb, hids => by
    obtain ⟨hb', hfirst⟩ := heeds_detach hb (hids id List.mem_cons_self)
    obtain ⟨hrest, hh⟩ := heeds_detachAll ids (t.detach id) hb' fun j hj => hids j (List.mem_cons_of_mem _ hj)
    exact ⟨hrest, hfirst.trans hh⟩

theorem size_detachAll : ∀ (ids : List Nat) (t : Tree), (ids.foldl detach t).forest.size = t.forest.size
  | [], _ => rfl
  | id :: ids, t => by
    have hsize : (t.detach id).forest.size = t.forest.size := by rw [forest_detach, Forest.size_detach]
    exact (size_detachAll ids (t.detach id)).trans hsize

theorem not_connected_detachAll {k : Nat} : ∀ (ids : List Nat) (t : Tree), t.forest.Balanced → (∀ id ∈ ids, id ≠ 0) →
    k ∈ ids → ¬ (ids.foldl detach t).forest.Connected k
  | id :: ids, t, hb, hids, hk, hc => by
    have hid := hids id List.mem_cons_self
    have hb' := (heeds_detach hb hid).1
    have hids' : ∀ j ∈ ids, j ≠ 0 := fun j hj => hids j (List.mem_cons_of_mem _ hj)
    rcases List.mem_cons.1 hk with rfl | hk
    · obtain ⟨hend, hh⟩ := heeds_detachAll ids (t.detach k) hb' hids'
      have hlt : k < (t.detach k).forest.size := by
        rw [← size_detachAll ids]
        exact hc.lt_size hend.linked.sane
      have hnot : ¬ (t.detach k).forest.Connected k := by
        rw [forest_detach]
        exact Forest.not_connected_detach hb.linked hid
      exact hnot (hh.connected k hlt hc)
    · exact not_connected_detachAll ids (t.detach id) hb' hids' hk hc

/-- **The contexts are changed without a word that the root is stable.** -/
inductive Quietly (t : Tree) : Tree → Prop
  | refl : Quietly t t
  | change {u : Tree} (h : Quietly t u) {op : Forest → Forest × List Event} (hs : Event.stable ∉ (op u.forest).2) :
    Quietly t (u.change op)

theorem Quietly.trans (h₁ : Quietly t u) (h₂ : Quietly u v) : Quietly t v := by
  induction h₂ with
  | refl => exact h₁
  | change _ hs ih => exact ih.change hs

/-- As long as nobody says that the root is stable, no work runs that waits for it. -/
theorem Quietly.ran_eq (h : Quietly t u) : u.ran = t.ran ∧ u.waiting = t.waiting := by
  induction h with
  | refl => exact ⟨rfl, rfl⟩
  | @change u _ op hs ih =>
    obtain ⟨hran, hwaiting⟩ := ran_change u op
    rw [if_neg hs] at hran hwaiting
    exact ⟨hran.trans ih.1, hwaiting.trans ih.2⟩

theorem quietly_change (op : Forest → Forest × List Event)
    (hop : (op t.forest).2 = Forest.turned t.forest (op t.forest).1) (hs : (t.change op).forest.isStable 0 = false) :
    Quietly t (t.change op) := by
  refine .change .refl fun hm => ?_
  rw [forest_change] at hs
  rw [hop, Forest.turned, hs, Bool.and_false, if_neg Bool.false_ne_true] at hm
  cases hm

theorem quietly_setStable (hb : t.forest.Balanced) (hid : id < t.forest.size) (b : Bool)
    (hs : (t.setStable id b).forest.isStable 0 = false) : Quietly t (t.setStable id b) :=
  quietly_change (·.setStable id b) (hb.setStable hid b).2 hs

theorem quietly_create (hb : t.forest.Balanced) {parent : Nat} (hp : parent < t.forest.size)
    (hs : (t.create parent).2.forest.isStable 0 = false) : Quietly t (t.create parent).2 :=
  quietly_change (·.create parent) (hb.create hp).2 hs

theorem quietly_detach (hb : t.forest.Balanced) (hid : id ≠ 0)
    (hs : (t.detach id).forest.isStable 0 = false) : Quietly t (t.detach id) :=
  quietly_change (·.detach id) (hb.detach hid).2 hs

/-- **A connected context that is not stable itself** keeps the root from being stable. -/
theorem unstable_root {f : Forest} (hb : f.Balanced) {k : Nat} (hk : f.Connected k) (hs : f.isLocallyStable k = false) :
    f.isStable 0 = false := by
  cases hr : f.isStable 0 with
  | false => rfl
  | true =>
    rw [hb.root_isStable_iff.1 hr k hk] at hs
    cases hs

theorem quietly_detachAll {k : Nat} : ∀ (ids : List Nat) (t : Tree), t.forest.Balanced → (∀ id ∈ ids, id ≠ 0) →
    (ids.foldl detach t).forest.Connected k → (ids.foldl detach t).forest.isLocallyStable k = false →
      Quietly t (ids.foldl detach t)
  | [], _, _, _, _, _ => .refl
  | id :: ids, t, hb, hids, hc, hs => by
    have hb' := (heeds_detach hb (hids id List.mem_cons_self)).1
    have hids' : ∀ j ∈ ids, j ≠ 0 := fun j hj => hids j (List.mem_cons_of_mem _ hj)
    -- what is connected and unstable in the end has been so after the first step
    obtain ⟨hend, hh⟩ := heeds_detachAll ids (t.detach id) hb' hids'
    have hk : k < (t.detach id).forest.size := by
      rw [← size_detachAll ids]
      exact hc.lt_size hend.linked.sane
    have hroot := unstable_root hb' (hh.connected k hk hc) ((hh.flags k trivial hk).symm.trans hs)
    exact (quietly_detach hb (hids id List.mem_cons_self) hroot).trans (quietly_detachAll ids (t.detach id) hb' hids' hc hs)

end Tree

end Remedy.Context
