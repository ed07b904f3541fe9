import Remedy.Proofs.Context.Root
import Remedy.Proofs.Context.Suspension
/-!
# Proofs.Context.Resuming — what comes of a context that is told to go on

A change of one context's own flag goes down from it, and every flag that changes with it changes to the same value
(`Governed.oneWay`), since nothing else about a child changes when its parent's flag does.  So suspending resumes
nothing.  Resuming suspends nothing either as long as the context is attached (`Listed`): then its flag follows its
parent's.  A context that has been removed keeps its parent, but what becomes of the parent no longer reaches it: if the
parent has been suspended since (`Lags`), the context is suspended when it is told to go on, and so is what is under it
(`resuming_exact`).
-/
namespace Remedy.Context

namespace Forest

variable {f g : Forest} {id k p : Nat} {b : Bool}

/-! ## How far going down gets -/

/-- **Going down stays among** contexts that have their children among them. -/
theorem isSuspended_spread (among : Nat → Prop) (hk : ¬ among k) : ∀ (fuel : Nat) (todo : List Nat) (f : Forest),
    (∀ p, among p → ∀ j ∈ f.children p, among j) → (∀ j ∈ todo, among j) →
      (spreadSuspension fuel todo f).1.isSuspended k = f.isSuspended k
  | 0, _, _, _, _ | _ + 1, [], _, _, _ => rfl
  | fuel + 1, x :: todo, f, hc, ht => by
    obtain ⟨hx, htodo⟩ := List.forall_mem_cons.1 ht
    unfold spreadSuspension
    split
    · exact isSuspended_spread among hk fuel todo f hc htodo
    · rename_i n hn
      simp only
      split
      · exact isSuspended_spread among hk fuel todo f hc htodo
      · have hne : x ≠ k := fun he => hk (he ▸ hx)
        have hchildren : n.children = f.children x := by
          rw [children, view, hn]
          rfl
        refine (isSuspended_spread among hk fuel (n.children ++ todo) (f.hold x (f.shouldBeSuspended n)) ?_ ?_).trans ?_
        · intro p hp j hj
          rw [children_hold] at hj
          exact hc p hp j hj
        · intro j hj
          rcases List.mem_append.1 hj with hj | hj
          · exact hc x hx j (hchildren ▸ hj)
          · exact htodo j hj
        · rw [isSuspended_hold hn, if_neg hne]

def order (f : Forest) (id : Nat) (b : Bool) : Forest := f.update id fun n => { n with localSuspended := b }

theorem view_order {α : Type} {v : Node → α} (hv : ∀ n b, v { n with localSuspended := b } = v n) (f : Forest)
    (id : Nat) (b : Bool) (k : Nat) : view v (f.order id b) k = view v f k := view_update_of_eq (fun n => hv n b) f id k

theorem children_order (f : Forest) (id : Nat) (b : Bool) (p : Nat) : (f.order id b).children p = f.children p :=
  children_congr (view_order (fun _ _ => rfl) f id b) p

theorem isSuspended_order (f : Forest) (id : Nat) (b : Bool) (k : Nat) :
    (f.order id b).isSuspended k = f.isSuspended k := has_congr (view_order (fun _ _ => rfl) f id b k)

theorem setSuspended_eq (f : Forest) (id : Nat) (b : Bool) :
    f.setSuspended id b = spreadSuspension (f.size + 1) [id] (f.order id b) := rfl

/-- **What is neither the context nor a child** of any is left alone. -/
theorem isSuspended_setSuspended (hid : k ≠ id) (hk : ∀ p, k ∉ f.children p) (b : Bool) :
    (f.setSuspended id b).1.isSuspended k = f.isSuspended k := by
  rw [setSuspended_eq, ← isSuspended_order f id b]
  refine isSuspended_spread (fun j => j = id ∨ ∃ p, j ∈ f.children p) ?_ _ _ _ ?_ ?_
  · rintro (he | ⟨p, hp⟩)
    · exact hid he
    · exact hk p hp
  · intro p _ j hj
    rw [children_order] at hj
    exact .inr ⟨p, hj⟩
  · intro j hj
    exact .inl (List.mem_singleton.1 hj)

/-- The flag that a context gets that says of itself whether it is suspended. -/
def destined (f : Forest) (id : Nat) (b : Bool) : Bool := b || f.isCancelled id || (f.parent? id).any f.isSuspended

/-- **The context itself** is suspended then if it says so, is cancelled, or has a suspended parent. -/
theorem isSuspended_setSuspended_self (hs : f.Sane) (hid : id < f.size) (b : Bool) :
    (f.setSuspended id b).1.isSuspended id = f.destined id b := by
  obtain ⟨n, hn⟩ := exists_node hid
  have hnode : (f.order id b).node? id = some { n with localSuspended := b } := by
    unfold order
    rw [node?_update, if_pos rfl, hn]
    rfl
  have hshould : (f.order id b).shouldBeSuspended { n with localSuspended := b } = f.destined id b := by
    have hparent : f.parent? id = n.parent := by
      rw [parent?, view, hn]
      rfl
    have hcancelled : f.isCancelled id = n.cancelled := by
      rw [isCancelled, has, hn]
      rfl
    have hany : (fun p => (f.order id b).has Node.suspended p) = f.isSuspended :=
      funext fun p => isSuspended_order f id b p
    unfold shouldBeSuspended destined
    rw [hparent, hcancelled, hany]
  rw [setSuspended_eq, spreadSuspension, hnode]
  simp only [hshould]
  split
  · rename_i he
    have hempty : ∀ fuel (g : Forest), (spreadSuspension fuel [] g).1 = g := fun fuel g => by cases fuel <;> rfl
    rw [hempty, isSuspended_eq hnode]
    exact (beq_iff_eq.1 he).symm
  · have hset := isSuspended_hold hnode (f.destined id b) id
    rw [if_pos rfl] at hset
    refine Eq.trans ?_ hset
    -- the children of the context are newer than it, and so is what is under them
    refine isSuspended_spread (id < ·) (Nat.lt_irrefl id) _ _ _ ?_ ?_
    · intro p hp j hj
      have hj : j ∈ ((f.order id b).hold id (f.destined id b)).children p := hj
      rw [children_hold, children_order] at hj
      exact Nat.lt_trans hp (hs.newer hj)
    · intro j hj
      rw [List.append_nil] at hj
      refine hs.newer (p := id) ?_
      rw [children, view, hn]
      exact hj

theorem isLocallySuspended_setSuspended (hk : k ≠ id) (b : Bool) :
    (f.setSuspended id b).1.isLocallySuspended k = f.isLocallySuspended k := by
  refine has_congr ?_
  rw [setSuspended_eq, view_spreadSuspension (fun _ _ => rfl)]
  unfold view order
  rw [node?_update, if_neg (Ne.symm hk)]

/-! ## One way -/

/-- **All flags that change with a context's own change as the context's does.** -/
theorem Governed.oneWay (h : f.Governed) (hid : id < f.size) (b : Bool) : ∀ k,
    (f.setSuspended id b).1.isSuspended k ≠ f.isSuspended k →
      (f.setSuspended id b).1.isSuspended id ≠ f.isSuspended id ∧
        (f.setSuspended id b).1.isSuspended k = (f.setSuspended id b).1.isSuspended id := by
  intro k
  induction k using Nat.strongRecOn with
  | ind k ih =>
    intro hchange
    by_cases hk : k = id
    · rw [hk] at hchange
      exact ⟨hchange, by rw [hk]⟩
    · -- what changes is the child of one that has changed before
      have hchild : ∃ p, k ∈ f.children p := by
        by_contra hnone
        exact hchange (isSuspended_setSuspended hk (not_exists.1 hnone) b)
      obtain ⟨p, hp⟩ := hchild
      have hbefore := h.inherits hp List.not_mem_nil
      have hafter := (h.setSuspended hid b).1.inherits ((children_setSuspended f id b p).symm ▸ hp) List.not_mem_nil
      unfold Inherits at hbefore hafter
      rw [isLocallySuspended_setSuspended hk, isCancelled_setSuspended] at hafter
      rw [hbefore, hafter] at hchange
      have hown : (f.isLocallySuspended k || f.isCancelled k) = false := by
        cases hl : f.isLocallySuspended k || f.isCancelled k with
        | false => rfl
        | true => exact absurd (by rw [hl, Bool.true_or, Bool.true_or]) hchange
      rw [hown, Bool.false_or, Bool.false_or] at hchange
      rw [hown, Bool.false_or] at hafter
      rw [hafter]
      exact ih p (h.sane.newer hp) hchange

theorem mem_transitions (k : Nat) (c : Bool) (events : List Event) :
    c ∈ transitions k events ↔ (if c then Event.suspended k else .resumed k) ∈ events := by
  unfold transitions
  rw [List.mem_filterMap]
  constructor
  · rintro ⟨e, he, hturn⟩
    cases e with
    | suspended j | resumed j =>
      by_cases hj : j = k
      · rw [turn?, if_pos hj] at hturn
        cases hturn
        exact hj ▸ he
      · rw [turn?, if_neg hj] at hturn
        cases hturn
    | cancelled j | stable => cases hturn
  · intro he
    refine ⟨_, he, ?_⟩
    cases c <;> exact if_pos rfl

theorem mem_changes {before after c : Bool} : c ∈ changes before after ↔ before ≠ c ∧ after = c := by
  cases before <;> cases after <;> cases c <;> decide

/-- **A flag is told to have become `c`** just if it has. -/
theorem Governed.told_iff (h : f.Governed) (hid : id < f.size) (b c : Bool) (k : Nat) :
    (if c then Event.suspended k else .resumed k) ∈ (f.setSuspended id b).2 ↔
      f.isSuspended k ≠ c ∧ (f.setSuspended id b).1.isSuspended k = c := by
  rw [← mem_transitions, (h.setSuspended hid b).2 k, mem_changes]

/-! ## Contexts that have been removed -/

/-- **What is attached is among the children of its parent.** -/
def Listed (f : Forest) : Prop := ∀ k p, f.isAttached k = true → f.parent? k = some p → k ∈ f.children p

theorem listed_root : root.Listed := by
  intro k p _ hp
  cases k <;> cases hp

theorem Listed.congr (h : f.Listed) (hc : ∀ k, g.view Node.children k = f.view Node.children k)
    (hp : ∀ k, g.view Node.parent k = f.view Node.parent k)
    (ha : ∀ k, g.view Node.attached k = f.view Node.attached k) : g.Listed := by
  intro k p hk hkp
  rw [children_congr hc]
  exact h k p ((has_congr (ha k)).symm.trans hk) ((parent?_congr hp k).symm.trans hkp)

theorem Listed.create (h : f.Listed) {parent : Nat} (hp : parent < f.size) :
    (f.create parent).1.Listed := by
  intro k p hk hkp
  rw [isAttached_create] at hk
  rw [parent?_create] at hkp
  refine (mem_children_create hp).2 ?_
  by_cases hnew : k = f.size
  · rw [if_pos hnew] at hkp
    cases hkp
    exact .inr ⟨rfl, hnew⟩
  · rw [if_neg hnew] at hkp
    rw [decide_eq_false hnew, Bool.false_or] at hk
    exact .inl (h k p hk hkp)

theorem Listed.clear (h : f.Listed) (id : Nat) : (f.clear id).1.Listed := by
  intro k p hk hkp
  rw [isAttached_clear, Bool.and_eq_true, Bool.not_eq_true', List.contains_eq_mem, decide_eq_false_iff_not] at hk
  rw [parent?_congr (view_clear (fun _ _ => rfl) (fun _ _ => rfl) (fun _ _ => rfl) f id)] at hkp
  have hm := h k p hk.1 hkp
  have hne : id ≠ p := by
    rintro rfl
    exact hk.2 hm
  rw [children_clear, if_neg hne]
  exact hm

theorem Listed.detach (h : f.Listed) (id : Nat) : (f.detach id).1.Listed := by
  intro k p hk hkp
  rw [isAttached_detach, Bool.and_eq_true] at hk
  rw [parent?_congr (view_detach (fun _ _ => rfl) (fun _ _ => rfl) (fun _ _ => rfl) f id)] at hkp
  exact mem_children_detach (h k p hk.1 hkp) (by simpa using hk.2)

theorem Listed.act (h : f.Listed) {op : Operation} (hf : op.Finds f) : (op.act f).1.Listed := by
  cases op with
  | create parent => exact h.create hf
  | setStable id b =>
    exact h.congr (view_setStable (fun _ _ => rfl) (fun _ _ => rfl) f id b)
      (view_setStable (fun _ _ => rfl) (fun _ _ => rfl) f id b)
      (view_setStable (fun _ _ => rfl) (fun _ _ => rfl) f id b)
  | setSuspended id b =>
    exact h.congr (view_setSuspended (fun _ _ => rfl) (fun _ _ => rfl) f id b)
      (view_setSuspended (fun _ _ => rfl) (fun _ _ => rfl) f id b)
      (view_setSuspended (fun _ _ => rfl) (fun _ _ => rfl) f id b)
  | cancel id =>
    exact h.congr (view_cancel (fun _ => rfl) f id) (view_cancel (fun _ => rfl) f id)
      (view_cancel (fun _ => rfl) f id)
  | clear id => exact h.clear id
  | detach id => exact h.detach id
  | whenStable task => exact h

/-- **A context that lags behind its parent**: the parent is suspended and it is not. -/
def Lags (f : Forest) (id : Nat) : Prop :=
  f.isSuspended id = false ∧ ∃ p, f.parent? id = some p ∧ f.isSuspended p = true

instance (f : Forest) (id : Nat) : Decidable (f.Lags id) :=
  decidable_of_iff (f.isSuspended id = false ∧ (f.parent? id).any f.isSuspended = true) <| by
    unfold Lags
    rw [Option.any_eq_true]

/-- **Only what has been removed lags.** -/
theorem Governed.isAttached_of_lags (h : f.Governed) (hl : f.Listed) (hid : f.Lags id) : f.isAttached id = false := by
  obtain ⟨hnot, p, hp, hsuspended⟩ := hid
  cases ha : f.isAttached id with
  | false => rfl
  | true =>
    have hinherits := h.inherits (hl id p ha hp) List.not_mem_nil
    unfold Inherits at hinherits
    rw [hnot, hsuspended, Bool.or_true] at hinherits
    cases hinherits

theorem Governed.catchesUp (h : f.Governed) (hid : id < f.size) (hl : f.Lags id) :
    (f.setSuspended id false).1.isSuspended id = true := by
  obtain ⟨-, p, hp, hsuspended⟩ := hl
  rw [isSuspended_setSuspended_self h.sane hid, destined, hp]
  show (false || f.isCancelled id || f.isSuspended p) = true
  rw [hsuspended, Bool.or_true]

/-- **When being told to go on suspends**: what lags is suspended then, and nothing else. -/
theorem Governed.suspends_iff (h : f.Governed) (hid : id < f.size) :
    (∃ k, f.isSuspended k ≠ true ∧ (f.setSuspended id false).1.isSuspended k = true) ↔ f.Lags id := by
  constructor
  · rintro ⟨k, hbefore, hafter⟩
    have hself := isSuspended_setSuspended_self h.sane hid false
    obtain ⟨hchange, hsame⟩ := h.oneWay hid false k (by rw [hafter]; exact hbefore.symm)
    have hend : f.destined id false = true := hself ▸ hsame ▸ hafter
    have hnot : f.isSuspended id = false := by
      rw [hself, hend] at hchange
      exact (Bool.eq_false_or_eq_true _).resolve_left (Ne.symm hchange)
    have hcancelled : f.isCancelled id = false := by
      cases hc : f.isCancelled id with
      | false => rfl
      | true => exact absurd (h.cancelled hc) (by rw [hnot]; exact Bool.false_ne_true)
    unfold destined at hend
    rw [hcancelled, Bool.false_or, Bool.false_or, Option.any_eq_true] at hend
    exact ⟨hnot, hend⟩
  · intro hl
    exact ⟨id, by rw [hl.1]; exact Bool.false_ne_true, h.catchesUp hid hl⟩

/-- **Telling a context to stop resumes nothing.** -/
theorem Governed.suspends_only (h : f.Governed) (hid : id < f.size) (hk : f.isSuspended k ≠ false) :
    (f.setSuspended id true).1.isSuspended k ≠ false := by
  intro hafter
  obtain ⟨-, hsame⟩ := h.oneWay hid true k (by rw [hafter]; exact hk.symm)
  rw [isSuspended_setSuspended_self h.sane hid, hafter] at hsame
  cases hsame

end Forest

namespace Tree

theorem listed_after : ∀ {ops : List Operation} {t : Tree}, t.forest.Listed → t.Finding ops →
    (t.after ops).forest.Listed
  | [], _, h, _ => h
  | op :: ops, t, h, ⟨hop, hf⟩ => by
    have hnext : (t.perform op).forest.Listed := by
      rw [forest_perform]
      exact h.act hop
    have hall := listed_after hnext hf
    exact hall

/-- **What suspending and resuming tell and change**, for a context that there is, whatever has been done before.
Suspending tells of nothing that it resumes, and resumes nothing.  Resuming tells of something that it suspends, or
suspends something, just if the context lags behind its parent; then it has been removed from it, it is told to be
suspended itself, and nothing is resumed. -/
structure Resumes (f : Forest) (id : Nat) : Prop where
  suspending : ∀ k, .resumed k ∉ (f.setSuspended id true).2 ∧
    (f.isSuspended k = true → (f.setSuspended id true).1.isSuspended k = true)
  tells : (∃ k, .suspended k ∈ (f.setSuspended id false).2) ↔ f.Lags id
  turns : (∃ k, f.isSuspended k = false ∧ (f.setSuspended id false).1.isSuspended k = true) ↔ f.Lags id
  lagging : f.Lags id → f.isAttached id = false ∧ .suspended id ∈ (f.setSuspended id false).2 ∧
    ∀ k, .resumed k ∉ (f.setSuspended id false).2

/-- **Suspending never resumes, and resuming suspends only what has been removed** from a parent that is suspended,
after whatever operations. -/
theorem resuming_exact (watchers : List Subscriber) (ops : List Operation) (hf : (watched watchers).Finding ops)
    (id : Nat) (hid : id < ((watched watchers).after ops).forest.size) :
    Resumes ((watched watchers).after ops).forest id := by
  have hg := (keeps_after ops (watched watchers) Forest.governed_root hf).governed
  have hlisted := listed_after (t := watched watchers) Forest.listed_root hf
  generalize ((watched watchers).after ops).forest = f at hid hg hlisted
  have htold := hg.told_iff hid
  have hturns : (∃ k, f.isSuspended k = false ∧ (f.setSuspended id false).1.isSuspended k = true) ↔ f.Lags id := by
    simpa only [ne_eq, Bool.not_eq_true] using hg.suspends_iff hid
  refine ⟨fun k => ⟨fun hm => ?_, fun hk => ?_⟩, ?_, hturns, fun hlags => ⟨hg.isAttached_of_lags hlisted hlags, ?_,
    fun k hm => ?_⟩⟩
  · obtain ⟨hbefore, hafter⟩ := (htold true false k).1 hm
    exact hg.suspends_only hid hbefore hafter
  · exact eq_true_of_ne_false (hg.suspends_only hid (by rw [hk]; exact Bool.true_eq_false.mp))
  · exact Iff.trans (exists_congr fun k => htold false true k) (hg.suspends_iff hid)
  · exact (htold false true id).2 ⟨by rw [hlags.1]; exact Bool.false_ne_true, hg.catchesUp hid hlags⟩
  · obtain ⟨hbefore, hafter⟩ := (htold false false k).1 hm
    obtain ⟨-, hsame⟩ := hg.oneWay hid false k (by rw [hafter]; exact hbefore.symm)
    rw [hafter, hg.catchesUp hid hlags] at hsame
    cases hsame

/-- A branch that has been removed, with a branch of its own, is told to go on after the root has been suspended: both
are suspended.  The root goes on when it is told so. -/
theorem resuming_exact_removed :
    let ops : List Operation := [.create 0, .create 1, .detach 1, .setSuspended 0 true]
    let f := ((watched []).after ops).forest
    (watched []).Finding ops ∧ Resumes f 1 ∧ f.Lags 1 ∧ (f.setSuspended 1 false).2 = [.suspended 1, .suspended 2] ∧
      Resumes f 0 ∧ ¬ f.Lags 0 ∧ (f.setSuspended 0 false).2 = [.resumed 0] :=
  ⟨by decide, resuming_exact [] _ (by decide) 1 (by decide), by decide, by decide,
    resuming_exact [] _ (by decide) 0 (by decide), by decide, by decide⟩

/-- **A removed context that is told to go on is suspended**, and told to be. -/
theorem resuming_suspends :
    let f := ((watched []).after [.create 0, .detach 1, .setSuspended 0 true]).forest
    f.isSuspended 1 = false ∧ .suspended 1 ∈ (f.setSuspended 1 false).2 ∧
      (f.setSuspended 1 false).1.isSuspended 1 = true := by
  decide

end Tree

end Remedy.Context
