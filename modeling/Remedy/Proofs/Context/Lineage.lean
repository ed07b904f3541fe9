import Remedy.Proofs.Context.Shape
/-!
# Proofs.Context.Lineage — which contexts hang together

The contexts that have been made form a tree, whatever has been done to them: a child is newer than its parent and
nobody else's child, and what descends from a cancelled context is cancelled (`Sane`).  A context is `Connected` as long
as it has not been taken away, and no context above it has.  Taking a context away leaves all older ones connected
(`Connected.of_older`).
-/
namespace Remedy.Context.Forest

def children (f : Forest) (p : Nat) : List Nat := (f.view Node.children p).getD []

/-- **A context that has not been taken away**: it descends from the root. -/
inductive Connected (f : Forest) : Nat → Prop
  | root : Connected f 0
  | child {p k : Nat} (h : Connected f p) (hk : k ∈ f.children p) : Connected f k

/-- **A forest as it should be.** -/
structure Sane (f : Forest) : Prop where
  root : 0 < f.size
  newer : ∀ {p k}, k ∈ f.children p → p < k
  present : ∀ {p k}, k ∈ f.children p → k < f.size
  single : ∀ {p q k}, k ∈ f.children p → k ∈ f.children q → p = q
  nodup : ∀ p, (f.children p).Nodup
  cancelled : ∀ {p k}, k ∈ f.children p → f.isCancelled p = true → f.isCancelled k = true

variable {f g : Forest}

theorem Connected.lt_size (h : f.Connected k) (hs : f.Sane) : k < f.size := by
  cases h with
  | root => exact hs.root
  | child _ hk => exact hs.present hk

/-- **Nothing connected outlives the root.** -/
theorem Connected.isCancelled (h : f.Connected k) (hs : f.Sane) (h₀ : f.isCancelled 0 = true) :
    f.isCancelled k = true := by
  induction h with
  | root => exact h₀
  | child _ hk ih => exact hs.cancelled hk ih

/-- **What is older than all that has been taken away stays connected.** -/
theorem Connected.of_older (h : f.Connected k) (hs : f.Sane) {n : Nat}
    (hkeep : ∀ p j, j < n → j ∈ f.children p → j ∈ g.children p) (hk : k < n) : g.Connected k := by
  induction h with
  | root => exact .root
  | child _ hj ih => exact .child (ih (Nat.lt_trans (hs.newer hj) hk)) (hkeep _ _ hk hj)

theorem Connected.mono (h : f.Connected k) (hkeep : ∀ p j, j ∈ f.children p → j ∈ g.children p) : g.Connected k := by
  induction h with
  | root => exact .root
  | child _ hj ih => exact .child ih (hkeep _ _ hj)

/-! ## What the operations do to the children -/

theorem children_congr (h : ∀ k, view Node.children g k = view Node.children f k) (p : Nat) :
    g.children p = f.children p := by
  unfold children
  rw [h]

theorem children_setStable (f : Forest) (id : Nat) (b : Bool) (p : Nat) :
    (f.setStable id b).1.children p = f.children p :=
  children_congr (view_setStable (fun _ _ => rfl) (fun _ _ => rfl) f id b) p

theorem children_setSuspended (f : Forest) (id : Nat) (b : Bool) (p : Nat) :
    (f.setSuspended id b).1.children p = f.children p :=
  children_congr (view_setSuspended (fun _ _ => rfl) (fun _ _ => rfl) f id b) p

theorem children_settleFrom (f : Forest) (id p : Nat) : (f.settleFrom id).1.children p = f.children p :=
  children_congr (fun k => view_settle (fun _ _ => rfl) k f.size id f) p

theorem children_update (f : Forest) (id : Nat) (c : List Nat → List Nat) (hc : c [] = [] ∨ id < f.size) (p : Nat) :
    (f.update id fun n => { n with children := c n.children }).children p =
      if id = p then c (f.children p) else f.children p := by
  unfold children view
  rw [node?_update]
  by_cases h : id = p
  · subst h
    rw [if_pos rfl, if_pos rfl]
    cases hn : f.node? id with
    | some n => rfl
    | none =>
      rcases hc with hc | hc
      · exact hc.symm
      · unfold node? at hn
        exact absurd (Array.getElem?_eq_none_iff.1 hn) (Nat.not_le.2 hc)
  · rw [if_neg h, if_neg h]

theorem children_release (ids : List Nat) (f : Forest) (p : Nat) : (f.release ids).children p = f.children p :=
  children_congr (fun k => view_release (fun _ _ => rfl) k ids f) p

theorem children_grown (f : Forest) (n : Node) (hn : n.children = []) (p : Nat) :
    (f.grown n).children p = f.children p := by
  unfold children
  rw [view_grown]
  by_cases h : p = f.size
  · subst h
    have hnone : f.node? f.size = none := Array.getElem?_eq_none (Nat.le_refl _)
    rw [if_pos rfl, hn, view, hnone]
    rfl
  · rw [if_neg h]

theorem children_withChild {parent : Nat} (hp : parent < f.size) (p : Nat) :
    (f.withChild parent).children p = if parent = p then f.size :: f.children p else f.children p := by
  rw [withChild, children_update _ parent (f.size :: ·) (.inr (by rw [size_grown]; omega)), children_grown f _ rfl]

/-- **A new context is the child of its parent.** -/
theorem children_create {parent : Nat} (hp : parent < f.size) (p : Nat) :
    (f.create parent).1.children p = if parent = p then f.size :: f.children p else f.children p := by
  rw [create_eq, children_settleFrom, children_withChild hp]

theorem mem_children_create {parent : Nat} (hp : parent < f.size) {p k : Nat} :
    k ∈ (f.create parent).1.children p ↔ k ∈ f.children p ∨ p = parent ∧ k = f.size := by
  rw [children_create hp]
  by_cases h : parent = p
  · rw [if_pos h, List.mem_cons, or_comm]
    simp [h]
  · rw [if_neg h]
    simp [Ne.symm h]

theorem children_clear (f : Forest) (id p : Nat) : (f.clear id).1.children p = if id = p then [] else f.children p := by
  unfold clear
  split
  · rename_i hn
    by_cases h : id = p
    · subst h
      rw [if_pos rfl]
      unfold children view
      rw [hn]
      rfl
    · rw [if_neg h]
  · rw [children_settleFrom, children_update (f.release _) id (fun _ => []) (.inl rfl), children_release]

/-- **Taking a context away** takes it from the children of one context at most. -/
theorem children_detach (f : Forest) (id p : Nat) : (f.detach id).1.children p = f.children p ∨
    (f.detach id).1.children p = (f.children p).filter (· != id) := by
  unfold detach
  split
  · exact .inl rfl
  · rename_i n hn
    split
    · exact .inl rfl
    · cases n.parent with
      | none => exact .inl (children_release _ f p)
      | some q =>
        simp only
        rw [children_settleFrom, children_update (f.release _) q (List.filter (· != id)) (.inl rfl), children_release]
        by_cases h : q = p
        · rw [if_pos h]
          exact .inr rfl
        · rw [if_neg h]
          exact .inl rfl

theorem mem_children_detach {id p k : Nat} (h : k ∈ f.children p) (hk : k ≠ id) : k ∈ (f.detach id).1.children p := by
  rcases children_detach f id p with hc | hc
  · rw [hc]
    exact h
  · rw [hc]
    exact List.mem_filter.2 ⟨h, by simpa using hk⟩

/-! ## The operations keep a forest as it should be -/

theorem sane_root : Sane root := by
  have hnil : ∀ p, root.children p = [] := by
    intro p
    cases p with
    | zero => rfl
    | succ p => rfl
  have hnone : ∀ {p k : Nat} {P : Prop}, k ∈ root.children p → P := by
    intro p k P h
    rw [hnil] at h
    cases h
  exact ⟨Nat.one_pos, hnone, hnone, fun h _ => hnone h, fun p => by rw [hnil]; exact .nil, fun h _ => hnone h⟩

theorem Sane.weaken (h : f.Sane) (hsize : g.size = f.size) (hsub : ∀ p, (g.children p).Sublist (f.children p))
    (hc : ∀ k, g.isCancelled k = f.isCancelled k) : g.Sane := by
  have hmem : ∀ {p k}, k ∈ g.children p → k ∈ f.children p := fun hk => (hsub _).subset hk
  refine ⟨hsize ▸ h.root, fun hk => h.newer (hmem hk), fun hk => hsize ▸ h.present (hmem hk),
    fun hk hk' => h.single (hmem hk) (hmem hk'), fun p => (h.nodup p).sublist (hsub p), ?_⟩
  intro p k hk hp
  rw [hc] at hp ⊢
  exact h.cancelled (hmem hk) hp

theorem Sane.setStable (h : f.Sane) (id : Nat) (b : Bool) : (f.setStable id b).1.Sane :=
  h.weaken (size_setStable f id b) (fun p => (children_setStable f id b p).symm ▸ .refl _)
    (isCancelled_setStable f id b)

theorem Sane.setSuspended (h : f.Sane) (id : Nat) (b : Bool) : (f.setSuspended id b).1.Sane :=
  h.weaken (size_setSuspended f id b) (fun p => (children_setSuspended f id b p).symm ▸ .refl _)
    (isCancelled_setSuspended f id b)

theorem Sane.detach (h : f.Sane) (id : Nat) : (f.detach id).1.Sane := by
  refine h.weaken (size_detach f id) (fun p => ?_) (isCancelled_detach f id)
  rcases children_detach f id p with hc | hc
  · exact hc.symm ▸ .refl _
  · rw [hc]
    exact List.filter_sublist

theorem Sane.clear (h : f.Sane) (id : Nat) : (f.clear id).1.Sane := by
  refine h.weaken (size_clear f id) (fun p => ?_) (isCancelled_clear f id)
  rw [children_clear]
  by_cases hp : id = p
  · rw [if_pos hp]
    exact List.nil_sublist _
  · exact (if_neg hp).symm ▸ .refl _

theorem Sane.create (h : f.Sane) {parent : Nat} (hp : parent < f.size) : (f.create parent).1.Sane where
  root := by
    rw [size_create]
    exact Nat.succ_pos _
  newer := by
    intro p k hk
    rcases (mem_children_create hp).1 hk with hk | ⟨hpp, hkk⟩
    · exact h.newer hk
    · rw [hpp, hkk]
      exact hp
  present := by
    intro p k hk
    rw [size_create]
    rcases (mem_children_create hp).1 hk with hk | ⟨-, hkk⟩
    · exact Nat.lt_succ_of_lt (h.present hk)
    · rw [hkk]
      exact Nat.lt_succ_self _
  single := by
    intro p q k hk hk'
    rcases (mem_children_create hp).1 hk with hk | ⟨hpp, hkk⟩
    · rcases (mem_children_create hp).1 hk' with hk' | ⟨-, hkk'⟩
      · exact h.single hk hk'
      · exact absurd (h.present hk) (by omega)
    · rcases (mem_children_create hp).1 hk' with hk' | ⟨hqq, -⟩
      · exact absurd (h.present hk') (by omega)
      · rw [hpp, hqq]
  nodup := by
    intro p
    rw [children_create hp]
    by_cases hpp : parent = p
    · rw [if_pos hpp]
      exact List.nodup_cons.2 ⟨fun hm => Nat.lt_irrefl _ (h.present hm), h.nodup p⟩
    · rw [if_neg hpp]
      exact h.nodup p
  cancelled := by
    intro p k hk hpc
    rw [isCancelled_create] at hpc ⊢
    rcases (mem_children_create hp).1 hk with hk | ⟨hpp, hkk⟩
    · have hkf := h.present hk
      have hpk := h.newer hk
      rw [if_neg (by omega)] at hpc ⊢
      exact h.cancelled hk hpc
    · rw [hpp, if_neg (by omega)] at hpc
      rw [if_pos hkk]
      exact hpc

end Remedy.Context.Forest
