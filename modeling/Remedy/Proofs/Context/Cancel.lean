import Remedy.Proofs.Context.Lineage
/-!
# Proofs.Context.Cancel — cancelling a context cancels all that descends from it

Cancelling goes from a context to its children and from these to theirs, level by level, and looks at nothing twice,
since nobody is the child of two contexts (`Spreading`).  So it comes to an end before its fuel does
(`spreading_ends`): then all descendants have been cancelled, and the forest is as it should be (`Sane.cancel`).
-/
namespace Remedy.Context.Forest

variable {f g : Forest}

/-- **How far going down from a context has come**: the contexts that have been dealt with, and those that are known
and wait. -/
structure Spreading (f : Forest) (start : Nat) (seen todo : List Nat) : Prop where
  first : start ∈ seen ++ todo
  nodup : (seen ++ todo).Nodup
  present : ∀ k ∈ seen ++ todo, k < f.size
  found : ∀ k ∈ seen ++ todo, k ≠ start → start < k ∧ ∃ p ∈ seen, k ∈ f.children p

/-- **No child of what has been dealt with has been left out.** -/
def Closed (f : Forest) (seen todo : List Nat) : Prop := ∀ p ∈ seen, ∀ k ∈ f.children p, k ∈ seen ++ todo

variable {start : Nat} {seen todo : List Nat}

theorem Spreading.perm (h : Spreading f start seen todo) {todo' : List Nat} (hp : todo.Perm todo') :
    Spreading f start seen todo' := by
  have hall : (seen ++ todo).Perm (seen ++ todo') := hp.append_left seen
  exact ⟨hall.subset h.first, hall.nodup_iff.1 h.nodup, fun k hk => h.present k (hall.symm.subset hk),
    fun k hk => h.found k (hall.symm.subset hk)⟩

theorem Closed.perm (h : Closed f seen todo) {todo' : List Nat} (hp : todo.Perm todo') : Closed f seen todo' :=
  fun p hm k hk => (hp.append_left seen).subset (h p hm k hk)

theorem Spreading.length_lt {x : Nat} (h : Spreading f start seen (x :: todo)) : seen.length < f.size := by
  have hsub : seen ++ [x] ⊆ List.range f.size := by
    intro k hk
    refine List.mem_range.2 (h.present k ?_)
    rcases List.mem_append.1 hk with hk | hk
    · exact List.mem_append_left _ hk
    · rw [List.mem_singleton.1 hk]
      exact List.mem_append_right _ List.mem_cons_self
  have hnodup : (seen ++ [x]).Nodup := by
    refine h.nodup.sublist ((List.append_sublist_append_left seen).2 ?_)
    exact (List.nil_sublist todo).cons_cons x
  have hlen := hnodup.length_le_of_subset hsub
  rw [List.length_append, List.length_singleton, List.length_range] at hlen
  exact hlen

/-- **A context may be passed over**, and its children with it. -/
theorem Spreading.skip {x : Nat} (h : Spreading f start seen (x :: todo)) : Spreading f start (x :: seen) todo := by
  have hmid : (seen ++ x :: todo).Perm ((x :: seen) ++ todo) := List.perm_middle
  refine ⟨hmid.subset h.first, hmid.nodup_iff.1 h.nodup, fun k hk => h.present k (hmid.symm.subset hk),
    fun k hk hks => ?_⟩
  obtain ⟨hlt, p, hp, hkp⟩ := h.found k (hmid.symm.subset hk) hks
  exact ⟨hlt, p, List.mem_cons_of_mem _ hp, hkp⟩

/-- **Dealing with a context** makes its children wait. -/
theorem Spreading.visit (hs : f.Sane) {x : Nat} (h : Spreading f start seen (x :: todo)) :
    Spreading f start (x :: seen) (todo ++ f.children x) := by
  have hmid : (seen ++ x :: todo).Perm (x :: (seen ++ todo)) := List.perm_middle
  have hx : x ∈ seen ++ x :: todo := List.mem_append_right _ List.mem_cons_self
  have hxseen : x ∉ seen := fun hm => (List.nodup_cons.1 (hmid.nodup_iff.1 h.nodup)).1 (List.mem_append_left _ hm)
  have hstart : start ≤ x := by
    by_cases hxs : x = start
    · exact Nat.le_of_eq hxs.symm
    · exact Nat.le_of_lt (h.found x hx hxs).1
  have hnew : ∀ k ∈ f.children x, k ∉ seen ++ x :: todo := by
    -- a context that is known has been found from one that has been seen, and nobody else is its parent
    intro k hk hkm
    have hlt := hs.newer hk
    obtain ⟨-, p, hp, hkp⟩ := h.found k hkm (by omega)
    rw [hs.single hkp hk] at hp
    exact hxseen hp
  have hassoc : (x :: seen) ++ (todo ++ f.children x) = x :: (seen ++ todo) ++ f.children x := by
    simp
  have hmem : ∀ k, k ∈ (x :: seen) ++ (todo ++ f.children x) ↔ k ∈ seen ++ x :: todo ∨ k ∈ f.children x := by
    intro k
    rw [hassoc, List.mem_append, hmid.mem_iff]
  refine ⟨(hmem _).2 (.inl h.first), ?_, fun k hk => ?_, fun k hk hks => ?_⟩
  · rw [hassoc]
    refine List.nodup_append.2 ⟨hmid.nodup_iff.1 h.nodup, hs.nodup x, fun a ha b hb hab => ?_⟩
    exact hnew b hb (hmid.mem_iff.2 (hab ▸ ha))
  · rcases (hmem k).1 hk with hk | hk
    · exact h.present k hk
    · exact hs.present hk
  · rcases (hmem k).1 hk with hk | hk
    · obtain ⟨hlt, p, hp, hkp⟩ := h.found k hk hks
      exact ⟨hlt, p, List.mem_cons_of_mem _ hp, hkp⟩
    · have hlt := hs.newer hk
      exact ⟨by omega, x, List.mem_cons_self, hk⟩

theorem Closed.visit {x : Nat} (h : Closed f seen (x :: todo)) : Closed f (x :: seen) (todo ++ f.children x) := by
  have hmid : (seen ++ x :: todo).Perm ((x :: seen) ++ todo) := List.perm_middle
  intro p hp k hk
  rw [← List.append_assoc]
  rcases List.mem_cons.1 hp with rfl | hp
  · exact List.mem_append_right _ hk
  · exact List.mem_append_left _ (hmid.subset (h p hp k hk))

/-- **A forest in which certain contexts have been cancelled**, and nothing else has changed but what is suspended. -/
structure Cancels (f g : Forest) (seen : List Nat) : Prop where
  size : g.size = f.size
  children : ∀ p, g.children p = f.children p
  cancelled : ∀ k, g.isCancelled k = true ↔ f.isCancelled k = true ∨ k ∈ seen

theorem isCancelled_mark {x : Nat} (hx : x < f.size) (k : Nat) :
    (f.update x fun n => { n with cancelled := true, suspended := true }).isCancelled k = true ↔
      f.isCancelled k = true ∨ k = x := by
  unfold isCancelled has
  rw [node?_update]
  by_cases h : x = k
  · subst h
    rw [if_pos rfl]
    have hn : f.node? x = some f.nodes[x] := Array.getElem?_eq_getElem hx
    rw [hn]
    simp
  · rw [if_neg h]
    simp [Ne.symm h]

theorem Cancels.mark (h : Cancels f g seen) {x : Nat} (hx : x < f.size) :
    Cancels f (g.update x fun n => { n with cancelled := true, suspended := true }) (x :: seen) := by
  refine ⟨(size_update g x _).trans h.size, fun p => ?_, fun k => ?_⟩
  · rw [← h.children p]
    refine children_congr (fun j => ?_) p
    refine view_update_of_eq ?_ g x j
    exact fun _ => rfl
  · rw [isCancelled_mark (h.size.symm ▸ hx), h.cancelled, List.mem_cons]
    constructor
    · rintro ((hk | hk) | hk)
      · exact .inl hk
      · exact .inr (.inr hk)
      · exact .inr (.inl hk)
    · rintro (hk | hk | hk)
      · exact .inl (.inl hk)
      · exact .inr hk
      · exact .inl (.inr hk)

/-- **The fuel suffices**: a context that is dealt with pays for itself and for the next change of level. -/
theorem spreading_ends (hs : f.Sane) : ∀ (fuel : Nat) (now below seen : List Nat) (g : Forest),
    Spreading f start seen (now ++ below) → Closed f seen (now ++ below) → Cancels f g seen →
    2 * (f.size - seen.length) + (if now.isEmpty then 1 else 0) ≤ fuel →
      ∃ seen', Spreading f start seen' [] ∧ Closed f seen' [] ∧ Cancels f (spreadCancellation fuel now below g).1 seen'
  | 0, [], _, _, _, _, _, _, hfuel => by
    simp only [List.isEmpty_nil, if_true] at hfuel
    omega
  | 0, x :: now, below, seen, g, h, _, _, hfuel => by
    have h : Spreading f start seen (x :: (now ++ below)) := h
    have hlt := h.length_lt
    omega
  | _ + 1, [], [], seen, g, h, hc, hg, _ => ⟨seen, h, hc, hg⟩
  | fuel + 1, [], y :: below, seen, g, h, hc, hg, hfuel => by
    have hp : ([] ++ (y :: below)).Perm ((y :: below).reverse ++ []) := by
      rw [List.append_nil]
      exact (List.reverse_perm _).symm
    refine spreading_ends hs fuel (y :: below).reverse [] seen g (h.perm hp) (hc.perm hp) hg ?_
    simp only [List.isEmpty_nil, if_true] at hfuel
    simp only [List.isEmpty_reverse, List.isEmpty_cons, Bool.false_eq_true, if_false]
    omega
  | fuel + 1, x :: now, below, seen, g, h, hcl, hg, hfuel => by
    have h : Spreading f start seen (x :: (now ++ below)) := h
    have hcl : Closed f seen (x :: (now ++ below)) := hcl
    have hlt := h.length_lt
    have hx : x < f.size := h.present x (List.mem_append_right _ List.mem_cons_self)
    obtain ⟨n, hn⟩ : ∃ n, g.node? x = some n := by
      have hxg : x < g.size := hg.size.symm ▸ hx
      exact ⟨g.nodes[x], Array.getElem?_eq_getElem hxg⟩
    have hc : n.children = f.children x := by
      rw [← hg.children x, children, view, hn]
      rfl
    unfold spreadCancellation
    rw [hn]
    simp only
    rw [hc]
    have hvisit := h.visit hs
    have hp : ((now ++ below) ++ f.children x).Perm (now ++ (f.children x ++ below)) := by
      rw [List.append_assoc]
      exact List.perm_append_comm.append_left now
    refine spreading_ends hs fuel now (f.children x ++ below) (x :: seen) _ (hvisit.perm hp) (hcl.visit.perm hp)
      (hg.mark hx) ?_
    simp only [List.isEmpty_cons, Bool.false_eq_true, if_false, List.length_cons] at hfuel ⊢
    have hif : (if now.isEmpty = true then 1 else 0) ≤ 1 := by
      split <;> omega
    omega

theorem Cancels.none (f : Forest) : Cancels f f [] := ⟨rfl, fun _ => rfl, fun k => by simp⟩

/-- **Cancelling a context cancels it and all that descends from it**, and nothing else. -/
theorem cancels_cancel (hs : f.Sane) (start : Nat) : ∃ seen, Cancels f (f.cancel start).1 seen ∧
    (∀ p ∈ seen, ∀ k ∈ f.children p, k ∈ seen) ∧ (start < f.size → start ∈ seen ∨ f.isCancelled start = true) := by
  unfold cancel
  split
  · rename_i hc
    exact ⟨[], .none f, (fun _ h => nomatch h), fun _ => .inr hc⟩
  · by_cases hstart : start < f.size
    · have h : Spreading f start [] ([start] ++ []) := by
        refine ⟨List.mem_cons_self, by simp, fun k hk => ?_, fun k hk hne => ?_⟩
        · rw [List.mem_singleton.1 hk]
          exact hstart
        · exact absurd (List.mem_singleton.1 hk) hne
      obtain ⟨seen, hd, hclosed, hc⟩ :=
        spreading_ends hs (2 * f.size + 2) [start] [] [] f h (fun _ h => nomatch h) (.none f) (by simp)
      have hmem := hd.first
      unfold Closed at hclosed
      rw [List.append_nil] at hclosed hmem
      exact ⟨seen, hc, hclosed, fun _ => .inl hmem⟩
    · have hn : f.node? start = none := Array.getElem?_eq_none (Nat.le_of_not_lt hstart)
      have hsame : (spreadCancellation (2 * f.size + 2) [start] [] f).1 = f := by
        unfold spreadCancellation
        rw [hn]
        rfl
      refine ⟨[], ?_, (fun _ h => nomatch h), fun h => absurd h hstart⟩
      simp only
      rw [hsame]
      exact .none f

theorem size_cancel (hs : f.Sane) (id : Nat) : (f.cancel id).1.size = f.size := by
  obtain ⟨seen, hc, -⟩ := cancels_cancel hs id
  exact hc.size

theorem children_cancel (hs : f.Sane) (id p : Nat) : (f.cancel id).1.children p = f.children p := by
  obtain ⟨seen, hc, -⟩ := cancels_cancel hs id
  exact hc.children p

theorem isCancelled_cancel_of_isCancelled (hs : f.Sane) {k : Nat} (hk : f.isCancelled k = true) (id : Nat) :
    (f.cancel id).1.isCancelled k = true := by
  obtain ⟨seen, hc, -⟩ := cancels_cancel hs id
  exact (hc.cancelled k).2 (.inl hk)

theorem isCancelled_cancel_self (hs : f.Sane) {id : Nat} (hid : id < f.size) :
    (f.cancel id).1.isCancelled id = true := by
  obtain ⟨seen, hc, -, hid'⟩ := cancels_cancel hs id
  exact (hc.cancelled id).2 (hid' hid).symm

theorem Sane.cancel (hs : f.Sane) (id : Nat) : (f.cancel id).1.Sane := by
  obtain ⟨seen, hc, hclosed, -⟩ := cancels_cancel hs id
  generalize (f.cancel id).1 = g at hc
  have hmem : ∀ {p k}, k ∈ g.children p → k ∈ f.children p := fun h => hc.children _ ▸ h
  refine ⟨hc.size ▸ hs.root, fun hk => hs.newer (hmem hk), fun hk => hc.size ▸ hs.present (hmem hk),
    fun hk hk' => hs.single (hmem hk) (hmem hk'), fun p => hc.children p ▸ hs.nodup p, fun {p k} hk hp => ?_⟩
  rcases (hc.cancelled p).1 hp with hp | hp
  · exact (hc.cancelled k).2 (.inl (hs.cancelled (hmem hk) hp))
  · exact (hc.cancelled k).2 (.inr (hclosed p hp k (hmem hk)))

/-! ## What may be seen to the contexts -/

/-- **A forest that has come from a root**, by whatever has been seen to it. -/
inductive Made : Forest → Prop
  | root : Made root
  | create {f : Forest} (h : Made f) {parent : Nat} (hp : parent < f.size) : Made (f.create parent).1
  | setStable {f : Forest} (h : Made f) (id : Nat) (b : Bool) : Made (f.setStable id b).1
  | setSuspended {f : Forest} (h : Made f) (id : Nat) (b : Bool) : Made (f.setSuspended id b).1
  | cancel {f : Forest} (h : Made f) (id : Nat) : Made (f.cancel id).1
  | clear {f : Forest} (h : Made f) (id : Nat) : Made (f.clear id).1
  | detach {f : Forest} (h : Made f) (id : Nat) : Made (f.detach id).1

theorem Made.sane (h : Made f) : f.Sane := by
  induction h with
  | root => exact sane_root
  | create _ hp ih => exact ih.create hp
  | setStable _ id b ih => exact ih.setStable id b
  | setSuspended _ id b ih => exact ih.setSuspended id b
  | cancel _ id ih => exact ih.cancel id
  | clear _ id ih => exact ih.clear id
  | detach _ id ih => exact ih.detach id

/-- **What may be seen to the contexts of others**: anything, but that none of them is taken away. -/
inductive Spares (f : Forest) : Forest → Prop
  | refl : Spares f f
  | create {g : Forest} (h : Spares f g) {parent : Nat} (hp : parent < g.size) : Spares f (g.create parent).1
  | setStable {g : Forest} (h : Spares f g) (id : Nat) (b : Bool) : Spares f (g.setStable id b).1
  | setSuspended {g : Forest} (h : Spares f g) (id : Nat) (b : Bool) : Spares f (g.setSuspended id b).1
  | cancel {g : Forest} (h : Spares f g) (id : Nat) : Spares f (g.cancel id).1
  | clear {g : Forest} (h : Spares f g) {id : Nat} (hid : f.size ≤ id) : Spares f (g.clear id).1
  | detach {g : Forest} (h : Spares f g) {id : Nat} (hid : f.size ≤ id) : Spares f (g.detach id).1

/-- **What others leave of a forest.** -/
structure Spared (f g : Forest) : Prop where
  sane : g.Sane
  size : f.size ≤ g.size
  connected : ∀ {k}, f.Connected k → g.Connected k
  cancelled : ∀ {k}, f.isCancelled k = true → g.isCancelled k = true

theorem lt_size_of_isCancelled {k : Nat} (h : f.isCancelled k = true) : k < f.size := by
  refine Nat.lt_of_not_le fun hle => ?_
  rw [isCancelled_of_size_le hle] at h
  cases h

theorem Spares.spared (h : Spares f g) (hs : f.Sane) : Spared f g := by
  induction h with
  | refl => exact ⟨hs, Nat.le_refl _, id, id⟩
  | @create g _ parent hp ih =>
    refine ⟨ih.sane.create hp, ?_, fun hk => (ih.connected hk).mono fun _ _ hj => (mem_children_create hp).2 (.inl hj),
      fun {k} hk => ?_⟩
    · rw [size_create]
      exact Nat.le_succ_of_le ih.size
    · have hlt := lt_size_of_isCancelled (ih.cancelled hk)
      rw [isCancelled_create, if_neg (Nat.ne_of_lt hlt)]
      exact ih.cancelled hk
  | @setStable g _ id b ih =>
    exact ⟨ih.sane.setStable id b, (size_setStable g id b).symm ▸ ih.size,
      fun hk => (ih.connected hk).mono fun p _ hj => (children_setStable g id b p).symm ▸ hj,
      fun hk => (isCancelled_setStable g id b _).trans (ih.cancelled hk)⟩
  | @setSuspended g _ id b ih =>
    exact ⟨ih.sane.setSuspended id b, (size_setSuspended g id b).symm ▸ ih.size,
      fun hk => (ih.connected hk).mono fun p _ hj => (children_setSuspended g id b p).symm ▸ hj,
      fun hk => (isCancelled_setSuspended g id b _).trans (ih.cancelled hk)⟩
  | @cancel g _ id ih =>
    exact ⟨ih.sane.cancel id, (size_cancel ih.sane id).symm ▸ ih.size,
      fun hk => (ih.connected hk).mono fun p _ hj => (children_cancel ih.sane id p).symm ▸ hj,
      fun hk => isCancelled_cancel_of_isCancelled ih.sane (ih.cancelled hk) id⟩
  | @clear g _ id hid ih =>
    refine ⟨ih.sane.clear id, (size_clear g id).symm ▸ ih.size, fun {k} hk => ?_,
      fun hk => (isCancelled_clear g id _).trans (ih.cancelled hk)⟩
    refine (ih.connected hk).of_older ih.sane (fun p j hj hjp => ?_) (hk.lt_size hs)
    have hpj := ih.sane.newer hjp
    rw [children_clear, if_neg (by omega)]
    exact hjp
  | @detach g _ id hid ih =>
    refine ⟨ih.sane.detach id, (size_detach g id).symm ▸ ih.size, fun {k} hk => ?_,
      fun hk => (isCancelled_detach g id _).trans (ih.cancelled hk)⟩
    exact (ih.connected hk).of_older ih.sane (fun p j hj hjp => mem_children_detach hjp (by omega)) (hk.lt_size hs)

end Remedy.Context.Forest
