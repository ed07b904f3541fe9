import Remedy.Proofs.Context.Cancel
/-!
# Proofs.Context.Stability — the stable flags are exact

In a `Balanced` forest the flag of every attached context is what it should be: set if the context is stable itself and
so are all its children.  An operation may spoil this for one context, and bringing the flags up to date from there
restores it, although it stops where nothing changes (`Linked.settled`): a context whose flag does not change has a
parent whose flag is right already.  Hence every operation keeps a forest balanced, and it tells of a stable root
exactly if it has made it so (`turned`).  In a balanced forest a context is stable if and only if all that is under it
is stable itself (`Balanced.isStable_iff`).
-/
namespace Remedy.Context.Forest

variable {f g : Forest} {id k p : Nat}

def isLocallyStable (f : Forest) (k : Nat) : Bool := f.has Node.localStable k

def parent? (f : Forest) (k : Nat) : Option Nat := (f.view Node.parent k).join

theorem has_congr {flag : Node → Bool} (h : g.view flag k = f.view flag k) : g.has flag k = f.has flag k := by
  rw [has_eq, has_eq, h]

theorem exists_node (h : k < f.size) : ∃ n, f.node? k = some n := ⟨f.nodes[k], Array.getElem?_eq_getElem h⟩

/-! ## Links -/

/-- **Children, parents and the attached flag agree.**  Only the root has no parent. -/
structure Linked (f : Forest) : Prop where
  sane : f.Sane
  root : f.isAttached 0 = true
  orphan : ∀ {k}, f.view Node.parent k = some none → k = 0
  parent : ∀ {p k}, k ∈ f.children p → f.parent? k = some p
  older : ∀ {p k}, f.parent? k = some p → p < k
  attached : ∀ {p k}, k ∈ f.children p → f.isAttached k = true

theorem Linked.parent_eq (hl : f.Linked) {q : Nat} (hk : k ∈ f.children q) (hp : f.parent? k = some p) : q = p :=
  Option.some.inj ((hl.parent hk).symm.trans hp)

theorem Linked.congr (hl : f.Linked) (hs : g.Sane) (hc : ∀ k, g.view Node.children k = f.view Node.children k)
    (hp : ∀ k, g.view Node.parent k = f.view Node.parent k)
    (ha : ∀ k, g.view Node.attached k = f.view Node.attached k) : g.Linked := by
  have hchildren := children_congr hc
  have hparent : ∀ k, g.parent? k = f.parent? k := fun k => congrArg Option.join (hp k)
  have hattached : ∀ k, g.isAttached k = f.isAttached k := fun k => has_congr (ha k)
  refine ⟨hs, (hattached 0).trans hl.root, fun hk => hl.orphan (hp _ ▸ hk), fun hk => ?_, fun hk => ?_, fun hk => ?_⟩
  · rw [hparent]
    exact hl.parent (hchildren _ ▸ hk)
  · exact hl.older (hparent _ ▸ hk)
  · rw [hattached]
    exact hl.attached (hchildren _ ▸ hk)

theorem Linked.update (hl : f.Linked) {u : Node → Node} (hc : ∀ n, (u n).children = n.children)
    (hp : ∀ n, (u n).parent = n.parent) (ha : ∀ n, (u n).attached = n.attached)
    (hcancelled : ∀ n, (u n).cancelled = n.cancelled) (id : Nat) : (f.update id u).Linked := by
  have hchildren := view_update_of_eq hc f id
  refine hl.congr ?_ hchildren (view_update_of_eq hp f id) (view_update_of_eq ha f id)
  exact hl.sane.weaken (size_update f id u) (fun p => children_congr hchildren p ▸ .refl _) fun k =>
    has_congr (view_update_of_eq hcancelled f id k)

def mark (f : Forest) (id : Nat) (b : Bool) : Forest := f.update id fun n => { n with stable := b }

def declare (f : Forest) (id : Nat) (b : Bool) : Forest := f.update id fun n => { n with localStable := b }

theorem view_mark {α : Type} {p : Node → α} (hp : ∀ n b, p { n with stable := b } = p n) (f : Forest) (id : Nat)
    (b : Bool) (k : Nat) : view p (f.mark id b) k = view p f k := view_update_of_eq (fun n => hp n b) f id k

theorem view_declare {α : Type} {p : Node → α} (hp : ∀ n b, p { n with localStable := b } = p n) (f : Forest)
    (id : Nat) (b : Bool) (k : Nat) : view p (f.declare id b) k = view p f k :=
  view_update_of_eq (fun n => hp n b) f id k

theorem Linked.mark (hl : f.Linked) (id : Nat) (b : Bool) : (f.mark id b).Linked :=
  hl.update (u := fun n => { n with stable := b }) (fun _ => rfl) (fun _ => rfl) (fun _ => rfl) (fun _ => rfl) id

theorem Linked.declare (hl : f.Linked) (id : Nat) (b : Bool) : (f.declare id b).Linked :=
  hl.update (u := fun n => { n with localStable := b }) (fun _ => rfl) (fun _ => rfl) (fun _ => rfl) (fun _ => rfl) id

/-! ## Flags brought up to date -/

/-- **The stable flag of an attached context is as it should be.** -/
def Aligned (f : Forest) (k : Nat) : Prop :=
  f.isAttached k = true → f.isStable k = (f.isLocallyStable k && (f.children k).all f.isStable)

theorem Aligned.congr (h : f.Aligned k) (ha : g.isAttached k = true → f.isAttached k = true)
    (hs : g.isStable k = f.isStable k) (hl : g.isLocallyStable k = f.isLocallyStable k)
    (hc : g.children k = f.children k) (hcs : ∀ j ∈ f.children k, g.isStable j = f.isStable j) : g.Aligned k := by
  intro hg
  have hall : (f.children k).all g.isStable = (f.children k).all f.isStable := by
    rw [Bool.eq_iff_iff, List.all_eq_true, List.all_eq_true]
    exact forall₂_congr fun j hj => by rw [hcs j hj]
  rw [hs, hl, hc, hall]
  exact h (ha hg)

/-- What an operation tells of the root: that it has become stable, if it has. -/
def turned (f g : Forest) : List Event := if !f.isStable 0 && g.isStable 0 then [.stable] else []

theorem turned_of_eq (h : g.isStable 0 = f.isStable 0) : turned f g = [] := by
  unfold turned
  rw [h]
  cases f.isStable 0 <;> rfl

theorem isStable_mark {n : Node} (hn : f.node? id = some n) (b : Bool) (k : Nat) :
    (f.mark id b).isStable k = if id = k then b else f.isStable k := by
  unfold isStable has mark
  rw [node?_update]
  by_cases h : id = k
  · subst h
    rw [if_pos rfl, if_pos rfl, hn]
    rfl
  · rw [if_neg h, if_neg h]

theorem isLocallyStable_mark (f : Forest) (id : Nat) (b : Bool) (k : Nat) :
    (f.mark id b).isLocallyStable k = f.isLocallyStable k := has_congr (view_mark (fun _ _ => rfl) f id b k)

theorem isAttached_mark (f : Forest) (id : Nat) (b : Bool) (k : Nat) :
    (f.mark id b).isAttached k = f.isAttached k := has_congr (view_mark (fun _ _ => rfl) f id b k)

theorem children_mark (f : Forest) (id : Nat) (b : Bool) (k : Nat) : (f.mark id b).children k = f.children k :=
  children_congr (view_mark (fun _ _ => rfl) f id b) k

theorem shouldBeStable_eq {n : Node} (hn : f.node? id = some n) :
    f.shouldBeStable n = (f.isLocallyStable id && (f.children id).all f.isStable) := by
  unfold shouldBeStable isLocallyStable has children view
  rw [hn]
  rfl

/-- **Setting the flag of a context as it should be** makes all flags right but that of its parent. -/
theorem Linked.aligned_mark (hl : f.Linked) {n : Node} (hn : f.node? id = some n) (h : ∀ k, k ≠ id → f.Aligned k)
    (hk : f.parent? id ≠ some k) : (f.mark id (f.shouldBeStable n)).Aligned k := by
  have hstable := isStable_mark hn (f.shouldBeStable n)
  by_cases hki : k = id
  · intro _
    have hall : (f.children k).all (f.mark id (f.shouldBeStable n)).isStable = (f.children k).all f.isStable := by
      rw [Bool.eq_iff_iff, List.all_eq_true, List.all_eq_true]
      refine forall₂_congr fun j hj => ?_
      have hne := hl.sane.newer hj
      rw [hstable, if_neg (by omega)]
    rw [hstable, if_pos hki.symm, isLocallyStable_mark, children_mark, hall, hki]
    exact shouldBeStable_eq hn
  · refine (h k hki).congr (fun ha => (isAttached_mark f id _ k).symm.trans ha) ?_ (isLocallyStable_mark f id _ k)
      (children_mark f id _ k) fun j hj => ?_
    · rw [hstable, if_neg (Ne.symm hki)]
    · have hji : id ≠ j := fun hij => hk (hij ▸ hl.parent hj)
      rw [hstable, if_neg hji]

/-- **Bringing the flags up to date** from the one context whose flag may be wrong makes all of them right. -/
theorem Linked.aligned_settle : ∀ (fuel id : Nat) (f : Forest), f.Linked → id < fuel → (∀ k, k ≠ id → f.Aligned k) →
    ∀ k, (settle fuel id f).1.Aligned k
  | 0, _, _, _, hfuel, _ => absurd hfuel (Nat.not_lt_zero _)
  | fuel + 1, id, f, hl, hfuel, h => by
    intro k
    -- where nothing changes, the flag of the context is right
    have hstop : f.Aligned id → f.Aligned k := by
      intro hid
      by_cases hk : k = id
      · exact hk ▸ hid
      · exact h k hk
    unfold settle
    split
    · rename_i hn
      refine hstop fun ha => ?_
      rw [isAttached, has, hn] at ha
      cases ha
    · rename_i n hn
      simp only
      split
      · rename_i hcond
        refine hstop fun ha => ?_
        rw [isAttached, has, hn] at ha
        have ha : n.attached = true := ha
        rw [ha, Bool.not_true, Bool.false_or, beq_iff_eq] at hcond
        rw [← shouldBeStable_eq hn, isStable, has, hn]
        exact hcond.symm
      · cases hp : n.parent with
        | none =>
          refine hl.aligned_mark hn h fun hpk => ?_
          rw [parent?, view, hn] at hpk
          cases hp.symm.trans hpk
        | some p =>
          have hid : f.parent? id = some p := by
            rw [parent?, view, hn]
            exact hp
          have hlt := hl.older hid
          refine aligned_settle fuel p (f.mark id (f.shouldBeStable n)) (hl.mark id _) (by omega) (fun j hj => ?_) k
          refine hl.aligned_mark hn h fun hpj => hj ?_
          rw [hid] at hpj
          exact (Option.some.inj hpj).symm

/-- **Bringing the flags up to date tells of the root** exactly if it has made it stable. -/
theorem Linked.events_settle : ∀ (fuel id : Nat) (f : Forest), f.Linked →
    (settle fuel id f).2 = turned f (settle fuel id f).1
  | 0, _, f, _ => (turned_of_eq (f := f) rfl).symm
  | fuel + 1, id, f, hl => by
    unfold settle
    split
    · exact (turned_of_eq rfl).symm
    · rename_i n hn
      simp only
      split
      · exact (turned_of_eq rfl).symm
      · rename_i hcond
        have hne : f.shouldBeStable n ≠ n.stable := fun he => hcond (by rw [he]; simp)
        have hmark := isStable_mark hn (f.shouldBeStable n)
        by_cases hid : id = 0
        · subst hid
          have hroot : n.parent = none := by
            cases hp : n.parent with
            | none => rfl
            | some p =>
              have hpar : f.parent? 0 = some p := by
                rw [parent?, view, hn]
                exact hp
              exact absurd (hl.older hpar) (Nat.not_lt_zero p)
          have hbefore : f.isStable 0 = n.stable := by
            rw [isStable, has, hn]
            rfl
          rw [hroot]
          have hafter : (f.mark 0 (f.shouldBeStable n)).isStable 0 = f.shouldBeStable n := by rw [hmark, if_pos rfl]
          have hturned : turned f (f.mark 0 (f.shouldBeStable n)) =
              if !n.stable && f.shouldBeStable n then [.stable] else [] := by rw [turned, hbefore, hafter]
          refine Eq.trans ?_ hturned.symm
          cases hs : n.stable <;> cases hb : f.shouldBeStable n <;> simp_all
        · have hsame : (f.mark id (f.shouldBeStable n)).isStable 0 = f.isStable 0 := by rw [hmark, if_neg hid]
          cases n.parent with
          | none =>
            simp only [hid, decide_false, Bool.false_and, Bool.false_eq_true, if_false]
            exact (turned_of_eq hsame).symm
          | some p =>
            simp only [hid, decide_false, Bool.false_and, Bool.false_eq_true, if_false, List.nil_append]
            have hev := events_settle fuel p (f.mark id (f.shouldBeStable n)) (hl.mark id _)
            rw [turned, hsame] at hev
            exact hev

/-- **A forest whose flags are right.** -/
structure Balanced (f : Forest) : Prop where
  linked : f.Linked
  aligned : ∀ k, f.Aligned k

/-- **An operation that spoils the flag of one context**, and brings the flags up to date from there, keeps a forest
balanced and tells of the root what it should. -/
theorem Linked.settled (hl : g.Linked) (hid : id < g.size) (h : ∀ k, k ≠ id → g.Aligned k)
    (hroot : g.isStable 0 = f.isStable 0) :
    (g.settleFrom id).1.Balanced ∧ (g.settleFrom id).2 = turned f (g.settleFrom id).1 := by
  refine ⟨⟨hl.congr ?_ (fun k => view_settle (fun _ _ => rfl) k _ id g) (fun k => view_settle (fun _ _ => rfl) k _ id g)
    fun k => view_settle (fun _ _ => rfl) k _ id g, Linked.aligned_settle _ id g hl hid h⟩, ?_⟩
  · refine hl.sane.weaken (size_settle _ id g) (fun p => ?_) fun k => ?_
    · exact children_settleFrom g id p ▸ .refl _
    · exact has_congr (view_settle (fun _ _ => rfl) k _ id g)
  · unfold settleFrom
    rw [Linked.events_settle _ id g hl]
    unfold turned
    rw [hroot]

/-! ## The operations keep a forest balanced -/

theorem view_spreadCancellation {α : Type} {p : Node → α}
    (hp : ∀ n, p { n with cancelled := true, suspended := true } = p n) (k : Nat) :
    ∀ (fuel : Nat) (now below : List Nat) (f : Forest), view p (spreadCancellation fuel now below f).1 k = view p f k
  | 0, _, _, _ | _ + 1, [], [], _ => rfl
  | fuel + 1, [], y :: below, f => view_spreadCancellation hp k fuel (y :: below).reverse [] f
  | fuel + 1, id :: rest, below, f => by
    unfold spreadCancellation
    split
    · exact view_spreadCancellation hp k fuel rest below f
    · simp only
      rw [view_spreadCancellation hp k fuel]
      exact view_update_of_eq hp f id k

theorem view_cancel {α : Type} {p : Node → α} (hp : ∀ n, p { n with cancelled := true, suspended := true } = p n)
    (f : Forest) (id k : Nat) : view p (f.cancel id).1 k = view p f k := by
  unfold cancel
  split
  · rfl
  · exact view_spreadCancellation hp k _ [id] [] f

theorem stable_not_mem_spreadSuspension : ∀ (fuel : Nat) (ids : List Nat) (f : Forest),
    Event.stable ∉ (spreadSuspension fuel ids f).2
  | 0, _, _ | _ + 1, [], _ => List.not_mem_nil
  | fuel + 1, id :: rest, f => by
    unfold spreadSuspension
    split
    · exact stable_not_mem_spreadSuspension fuel rest f
    · rename_i n hn
      simp only
      split
      · exact stable_not_mem_spreadSuspension fuel rest f
      · intro h
        rcases List.mem_cons.1 h with h | h
        · split at h <;> cases h
        · exact stable_not_mem_spreadSuspension fuel _ _ h

theorem stable_not_mem_spreadCancellation : ∀ (fuel : Nat) (now below : List Nat) (f : Forest),
    Event.stable ∉ (spreadCancellation fuel now below f).2
  | 0, _, _, _ | _ + 1, [], [], _ => List.not_mem_nil
  | fuel + 1, [], y :: below, f => stable_not_mem_spreadCancellation fuel (y :: below).reverse [] f
  | fuel + 1, id :: rest, below, f => by
    unfold spreadCancellation
    split
    · exact stable_not_mem_spreadCancellation fuel rest below f
    · rename_i n hn
      simp only
      intro h
      rcases List.mem_append.1 h with h | h
      · split at h
        · cases h
        · cases List.mem_singleton.1 h
      · exact stable_not_mem_spreadCancellation fuel rest _ _ h

theorem stable_not_mem_cancel (f : Forest) (id : Nat) : Event.stable ∉ (f.cancel id).2 := by
  unfold cancel
  split
  · exact List.not_mem_nil
  · intro h
    rcases List.mem_append.1 h with h | h
    · exact stable_not_mem_spreadCancellation _ _ _ _ h
    · cases List.mem_singleton.1 h

theorem balanced_root : root.Balanced := by
  have hchildren : ∀ p, root.children p = [] := fun p => by cases p <;> rfl
  have hnone : ∀ {p k : Nat} {P : Prop}, k ∈ root.children p → P := fun {p k P} h => nomatch hchildren p ▸ h
  refine ⟨⟨sane_root, rfl, fun {k} h => ?_, hnone, fun {p k} h => ?_, hnone⟩, fun k => ?_⟩
  · cases k with
    | zero => rfl
    | succ k => cases h
  · cases k <;> cases h
  · cases k with
    | zero => exact fun _ => rfl
    | succ k => exact fun h => nomatch h

theorem Balanced.congr (h : f.Balanced) (hs : g.Sane) (hc : ∀ k, g.view Node.children k = f.view Node.children k)
    (hp : ∀ k, g.view Node.parent k = f.view Node.parent k)
    (ha : ∀ k, g.view Node.attached k = f.view Node.attached k)
    (hl : ∀ k, g.view Node.localStable k = f.view Node.localStable k)
    (hst : ∀ k, g.view Node.stable k = f.view Node.stable k) : g.Balanced :=
  ⟨h.linked.congr hs hc hp ha, fun k => (h.aligned k).congr (fun hg => (has_congr (ha k)).symm.trans hg) (has_congr (hst k))
    (has_congr (hl k)) (children_congr hc k) fun j _ => has_congr (hst j)⟩

theorem Balanced.setSuspended (h : f.Balanced) (id : Nat) (b : Bool) : (f.setSuspended id b).1.Balanced :=
  h.congr (h.linked.sane.setSuspended id b) (view_setSuspended (fun _ _ => rfl) (fun _ _ => rfl) f id b)
    (view_setSuspended (fun _ _ => rfl) (fun _ _ => rfl) f id b)
    (view_setSuspended (fun _ _ => rfl) (fun _ _ => rfl) f id b)
    (view_setSuspended (fun _ _ => rfl) (fun _ _ => rfl) f id b)
    (view_setSuspended (fun _ _ => rfl) (fun _ _ => rfl) f id b)

theorem isStable_setSuspended (f : Forest) (id : Nat) (b : Bool) (k : Nat) :
    (f.setSuspended id b).1.isStable k = f.isStable k :=
  has_congr (view_setSuspended (fun _ _ => rfl) (fun _ _ => rfl) f id b k)

theorem Balanced.cancel (h : f.Balanced) (id : Nat) : (f.cancel id).1.Balanced :=
  h.congr (h.linked.sane.cancel id) (view_cancel (fun _ => rfl) f id) (view_cancel (fun _ => rfl) f id)
    (view_cancel (fun _ => rfl) f id) (view_cancel (fun _ => rfl) f id) (view_cancel (fun _ => rfl) f id)

theorem isStable_cancel (f : Forest) (id k : Nat) : (f.cancel id).1.isStable k = f.isStable k :=
  has_congr (view_cancel (fun _ => rfl) f id k)

theorem Balanced.setStable (h : f.Balanced) (hid : id < f.size) (b : Bool) :
    (f.setStable id b).1.Balanced ∧ (f.setStable id b).2 = turned f (f.setStable id b).1 := by
  have hstable : ∀ k, (f.declare id b).isStable k = f.isStable k :=
    fun k => has_congr (view_declare (fun _ _ => rfl) f id b k)
  have hsize : (f.declare id b).size = f.size := size_update f id _
  refine (h.linked.declare id b).settled (hsize ▸ hid) (fun k hk => ?_) (hstable 0)
  refine (h.aligned k).congr (fun ha => ?_) (hstable k) ?_ ?_ fun j _ => hstable j
  · rw [← ha]
    exact (has_congr (view_declare (fun _ _ => rfl) f id b k)).symm
  · unfold isLocallyStable has declare
    rw [node?_update, if_neg (Ne.symm hk)]
  · exact children_congr (view_declare (fun _ _ => rfl) f id b) k

theorem isAttached_release (ids : List Nat) (f : Forest) (k : Nat) :
    (f.release ids).isAttached k = (f.isAttached k && !ids.contains k) := by
  induction ids generalizing f with
  | nil => simp [release]
  | cons id ids ih =>
    have hcons : f.release (id :: ids) = (f.update id fun n => { n with attached := false }).release ids := rfl
    have hone : (f.update id fun n => { n with attached := false }).isAttached k = (f.isAttached k && k != id) := by
      unfold isAttached has
      rw [node?_update]
      by_cases h : id = k
      · subst h
        rw [if_pos rfl]
        cases f.node? id <;> simp
      · rw [if_neg h]
        simp [Ne.symm h]
    rw [hcons, ih, hone, List.contains_cons, Bool.not_or, Bool.and_assoc]
    rfl

theorem view_listing {α : Type} {p : Node → α} (hp : ∀ n l, p { n with children := l } = p n) (f : Forest) (id : Nat)
    (c : List Nat → List Nat) (k : Nat) :
    view p (f.update id fun n => { n with children := c n.children }) k = view p f k :=
  view_update_of_eq (fun n => hp n _) f id k

/-! ## A new context -/

section
variable {parent : Nat} {flag : Node → Bool}

theorem has_withChild (hc : ∀ n l, flag { n with children := l } = flag n) (f : Forest) (parent : Nat) {k : Nat}
    (hk : k ≠ f.size) : (f.withChild parent).has flag k = f.has flag k :=
  has_congr ((view_withChild hc f parent k).trans (if_neg hk))

theorem has_withChild_size (hc : ∀ n l, flag { n with children := l } = flag n) (f : Forest) (parent : Nat) :
    (f.withChild parent).has flag f.size =
      flag (Node.fresh (some parent) (f.has Node.suspended parent) (f.has Node.cancelled parent)) := by
  rw [has_eq, view_withChild hc, if_pos rfl]
  rfl

theorem parent?_withChild (f : Forest) (parent k : Nat) :
    (f.withChild parent).parent? k = if k = f.size then some parent else f.parent? k := by
  unfold parent?
  rw [view_withChild fun _ _ => rfl]
  split <;> rfl

theorem mem_children_withChild (hp : parent < f.size) {q k : Nat} (hk : k ∈ (f.withChild parent).children q) :
    k ∈ f.children q ∨ q = parent ∧ k = f.size := by
  rw [← mem_children_create hp, create_eq, children_settleFrom]
  exact hk

theorem Sane.withChild (h : f.Sane) (hp : parent < f.size) : (f.withChild parent).Sane := by
  refine (h.create hp).weaken ?_ (fun q => ?_) fun k => ?_
  · rw [size_withChild, size_create]
  · rw [create_eq]
    exact children_settleFrom (f.withChild parent) parent q ▸ .refl _
  · rw [create_eq]
    exact (has_congr (view_settle (fun _ _ => rfl) k _ parent _)).symm

theorem Linked.withChild (h : f.Linked) (hp : parent < f.size) : (f.withChild parent).Linked := by
  refine ⟨h.sane.withChild hp, ?_, fun {k} hk => ?_, fun {q k} hk => ?_, fun {q k} hk => ?_, fun {q k} hk => ?_⟩
  · exact (has_withChild (fun _ _ => rfl) f parent (Nat.ne_of_lt h.sane.root)).trans h.root
  · rw [view_withChild fun _ _ => rfl] at hk
    split at hk
    · cases hk
    · exact h.orphan hk
  · rw [parent?_withChild]
    rcases mem_children_withChild hp hk with hk | ⟨rfl, rfl⟩
    · rw [if_neg (Nat.ne_of_lt (h.sane.present hk))]
      exact h.parent hk
    · rw [if_pos rfl]
  · rw [parent?_withChild] at hk
    split at hk
    · rename_i he
      cases hk
      exact he ▸ hp
    · exact h.older hk
  · rcases mem_children_withChild hp hk with hk | ⟨-, rfl⟩
    · exact (has_withChild (fun _ _ => rfl) f parent (Nat.ne_of_lt (h.sane.present hk))).trans (h.attached hk)
    · exact has_withChild_size (fun _ _ => rfl) f parent

/-- **A new context** is attached and unstable; what is left is the flag of its parent. -/
theorem Balanced.create (h : f.Balanced) (hp : parent < f.size) :
    (f.create parent).1.Balanced ∧ (f.create parent).2 = turned f (f.create parent).1 := by
  have hs := h.linked.sane
  rw [create_eq]
  refine (h.linked.withChild hp).settled (by rw [size_withChild]; omega) (fun k hk => ?_)
    (has_withChild (fun _ _ => rfl) f parent (Nat.ne_of_lt hs.root))
  by_cases hks : k = f.size
  · intro _
    have hstable : (f.withChild parent).isStable k = false := hks ▸ has_withChild_size (fun _ _ => rfl) f parent
    have hlocal : (f.withChild parent).isLocallyStable k = false := hks ▸ has_withChild_size (fun _ _ => rfl) f parent
    rw [hstable, hlocal]
    rfl
  · have hold : ∀ {flag : Node → Bool}, (∀ n l, flag { n with children := l } = flag n) →
        (f.withChild parent).has flag k = f.has flag k := fun hc => has_withChild hc f parent hks
    refine (h.aligned k).congr (fun ha => (hold fun _ _ => rfl).symm.trans ha) (hold fun _ _ => rfl) (hold fun _ _ => rfl)
      ?_ fun j hj => has_withChild (fun _ _ => rfl) f parent (Nat.ne_of_lt (hs.present hj))
    rw [children_withChild hp, if_neg (Ne.symm hk)]

end

/-! ## Contexts that are taken away -/

/-- **Contexts are taken away** together with their place among the children of their parent; what is left needs only
the flag of the parent brought up to date. -/
theorem Balanced.removed (h : f.Balanced) {ids : List Nat} {c : List Nat → List Nat} (hids : ∀ k ∈ ids, k ≠ 0)
    (hp : p < f.size) (hc : ∀ l, (c l).Sublist l) (hgone : ∀ k ∈ c (f.children p), k ∉ ids)
    (hpar : ∀ k ∈ ids, f.isAttached k = true → f.parent? k = some p) :
    let g := ((f.release ids).update p fun n => { n with children := c n.children }).settleFrom p
    g.1.Balanced ∧ g.2 = turned f g.1 := by
  generalize hg₀ : (f.release ids).update p (fun n => { n with children := c n.children }) = g₀
  have hl := h.linked
  have hsize : g₀.size = f.size := by rw [← hg₀, size_update, size_release]
  have hchildren : ∀ q, g₀.children q = if p = q then c (f.children q) else f.children q := by
    intro q
    rw [← hg₀, children_update _ p c (.inr (by rw [size_release]; exact hp)), children_release]
  have hkeep : ∀ {q k}, k ∈ g₀.children q → k ∈ f.children q := by
    intro q k hk
    rw [hchildren] at hk
    split at hk
    · exact (hc _).subset hk
    · exact hk
  have hattached : ∀ k, g₀.isAttached k = (f.isAttached k && !ids.contains k) := by
    intro k
    rw [← isAttached_release, ← hg₀]
    exact has_congr (view_listing (fun _ _ => rfl) _ p c k)
  have hview : ∀ {α : Type} {v : Node → α}, (∀ n l, v { n with children := l } = v n) →
      (∀ n b, v { n with attached := b } = v n) → ∀ k, view v g₀ k = view v f k := by
    intro α v hv hv' k
    rw [← hg₀, view_listing hv, view_release hv']
  have hviewParent : ∀ k, g₀.view Node.parent k = f.view Node.parent k := hview (fun _ _ => rfl) (fun _ _ => rfl)
  have hparent : ∀ k, g₀.parent? k = f.parent? k := fun k => congrArg Option.join (hviewParent k)
  have hstable : ∀ k, g₀.isStable k = f.isStable k :=
    fun k => has_congr (hview (fun _ _ => rfl) (fun _ _ => rfl) k)
  have hlinked : g₀.Linked := by
    refine ⟨hl.sane.weaken hsize (fun q => ?_) fun k => has_congr (hview (fun _ _ => rfl) (fun _ _ => rfl) k), ?_,
      fun hk => hl.orphan ((hviewParent _).symm.trans hk),
      fun hk => (hparent _).trans (hl.parent (hkeep hk)), fun hk => hl.older ((hparent _).symm.trans hk), fun {q k} hk => ?_⟩
    · rw [hchildren]
      split
      · exact hc _
      · exact .refl _
    · have h0 : 0 ∉ ids := fun hm => hids 0 hm rfl
      rw [hattached, hl.root, Bool.true_and, Bool.not_eq_true', List.contains_eq_mem, decide_eq_false h0]
    · have ha := hl.attached (hkeep hk)
      have hmem : k ∉ ids := by
        intro hm
        -- the parent of what is taken away does not list it any more
        have hqp : q = p := hl.parent_eq (hkeep hk) (hpar k hm ha)
        rw [hchildren, if_pos hqp.symm, hqp] at hk
        exact hgone k hk hm
      rw [hattached, ha, Bool.true_and, Bool.not_eq_true', List.contains_eq_mem, decide_eq_false hmem]
  refine hlinked.settled (hsize ▸ hp) (fun k hk => ?_) (hstable 0)
  refine (h.aligned k).congr (fun ha => ?_) (hstable k)
    (has_congr (hview (fun _ _ => rfl) (fun _ _ => rfl) k)) ?_ fun j _ => hstable j
  · rw [hattached, Bool.and_eq_true] at ha
    exact ha.1
  · rw [hchildren, if_neg (Ne.symm hk)]

theorem Balanced.clear (h : f.Balanced) (id : Nat) :
    (f.clear id).1.Balanced ∧ (f.clear id).2 = turned f (f.clear id).1 := by
  unfold Forest.clear
  split
  · exact ⟨h, (turned_of_eq rfl).symm⟩
  · rename_i n hn
    have hid : id < f.size := by
      refine Nat.lt_of_not_le fun hle => ?_
      have hnone : f.node? id = none := Array.getElem?_eq_none hle
      rw [hnone] at hn
      cases hn
    have hc : n.children = f.children id := by
      rw [children, view, hn]
      rfl
    rw [hc]
    refine h.removed (c := fun _ => []) (fun k hk => ?_) hid (fun l => List.nil_sublist l) 
      (fun k hk => absurd hk List.not_mem_nil)      fun k hk _ => h.linked.parent hk
    exact Nat.ne_of_gt (Nat.lt_of_le_of_lt (Nat.zero_le _) (h.linked.sane.newer hk))

theorem Balanced.detach (h : f.Balanced) (hid : id ≠ 0) :
    (f.detach id).1.Balanced ∧ (f.detach id).2 = turned f (f.detach id).1 := by
  unfold Forest.detach
  split
  · exact ⟨h, (turned_of_eq rfl).symm⟩
  · rename_i n hn
    split
    · exact ⟨h, (turned_of_eq rfl).symm⟩
    · rename_i ha
      have hlt : id < f.size := by
        refine Nat.lt_of_not_le fun hle => ?_
        have hnone : f.node? id = none := Array.getElem?_eq_none hle
        rw [hnone] at hn
        cases hn
      have hpar : f.parent? id = n.parent := by
        rw [parent?, view, hn]
        rfl
      cases hp : n.parent with
      | none =>
        refine absurd (h.linked.orphan ?_) hid
        rw [view, hn]
        exact congrArg some hp
      | some p =>
        rw [hp] at hpar
        have hold := h.linked.older hpar
        refine h.removed (c := List.filter (· != id)) (fun k hk => ?_) (Nat.lt_trans hold hlt)
          (fun l => List.filter_sublist) (fun k hk hm => ?_) fun k hk _ => ?_
        · rw [List.mem_singleton.1 hk]
          exact hid
        · have hne := (List.mem_filter.1 hk).2
          rw [List.mem_singleton.1 hm] at hne
          simp at hne
        · rw [List.mem_singleton.1 hk]
          exact hpar

/-! ## What is under a context -/

/-- **What is under a context**: itself, its children, and theirs. -/
inductive Under (f : Forest) (k : Nat) : Nat → Prop
  | self : Under f k k
  | child {p j : Nat} (h : Under f k p) (hj : j ∈ f.children p) : Under f k j

theorem Under.le (h : f.Under k p) (hs : f.Sane) : k ≤ p := by
  induction h with
  | self => exact Nat.le_refl k
  | child _ hj ih => exact Nat.le_trans ih (Nat.le_of_lt (hs.newer hj))

theorem Under.of_child {j : Nat} (h : f.Under j p) (hj : j ∈ f.children k) : f.Under k p := by
  induction h with
  | self => exact .child .self hj
  | child _ hi ih => exact .child ih hi

theorem Under.trans {j : Nat} (h : f.Under k p) (hj : f.Under p j) : f.Under k j := by
  induction hj with
  | self => exact h
  | child _ hi ih => exact .child ih hi

theorem connected_iff : f.Connected k ↔ f.Under 0 k := by
  constructor
  · intro h
    induction h with
    | root => exact .self
    | child _ hk ih => exact .child ih hk
  · intro h
    induction h with
    | self => exact .root
    | child _ hk ih => exact .child ih hk

theorem Linked.isAttached (hl : f.Linked) (h : f.Connected k) : f.isAttached k = true := by
  cases h with
  | root => exact hl.root
  | child _ hk => exact hl.attached hk

theorem Balanced.isStable_eq (h : f.Balanced) (hk : f.Connected k) :
    f.isStable k = true ↔ f.isLocallyStable k = true ∧ ∀ j ∈ f.children k, f.isStable j = true := by
  rw [h.aligned k (h.linked.isAttached hk), Bool.and_eq_true, List.all_eq_true]

/-- **A context is stable if and only if all that is under it is stable itself.** -/
theorem Balanced.isStable_iff (h : f.Balanced) (hk : f.Connected k) :
    f.isStable k = true ↔ ∀ j, f.Under k j → f.isLocallyStable j = true := by
  constructor
  · intro hs j hj
    suffices hall : f.Connected j ∧ f.isStable j = true from ((h.isStable_eq hall.1).1 hall.2).1
    induction hj with
    | self => exact ⟨hk, hs⟩
    | child _ hi ih => exact ⟨.child ih.1 hi, ((h.isStable_eq ih.1).1 ih.2).2 _ hi⟩
  · -- by induction from the newest contexts to the older ones
    induction hn : f.size - k using Nat.strongRecOn generalizing k with
    | ind n ih =>
      intro hall
      refine (h.isStable_eq hk).2 ⟨hall k .self, fun j hj => ?_⟩
      have hjs := h.linked.sane.present hj
      have hkj := h.linked.sane.newer hj
      exact ih (f.size - j) (by omega) (.child hk hj) rfl fun i hi => hall i (hi.of_child hj)

theorem Balanced.root_isStable_iff (h : f.Balanced) :
    f.isStable 0 = true ↔ ∀ j, f.Connected j → f.isLocallyStable j = true := by
  rw [h.isStable_iff .root]
  exact forall_congr' fun j => imp_congr_left connected_iff.symm

end Remedy.Context.Forest
