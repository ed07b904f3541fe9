import Remedy.Proofs.Context.Waiting
/-!
# Proofs.Context.Suspension — who is suspended, and what is told of it

A context is suspended if it is suspended itself, is cancelled, or has a suspended parent.  Two ways of going down the
tree write this flag: suspending goes on only where the flag changes, cancelling goes everywhere.  After either the flag
of every child is what it should be (`Governed`), since what suspending passes over has children whose flags are right
already.  Both come to a context once at most, so what an operation tells of a context is whether its flag has changed
(`Governed.act`), and what has been told since a moment leads from the flag of that moment to the present one
(`suspension_exact`).
-/
namespace Remedy.Context

namespace Forest

variable {f g : Forest} {id k p : Nat} {todo seen : List Nat}

def isSuspended (f : Forest) (k : Nat) : Bool := f.has Node.suspended k

def isLocallySuspended (f : Forest) (k : Nat) : Bool := f.has Node.localSuspended k

/-! ## Flags that follow those of the parent -/

/-- **The suspended flag of a child** is as it should be. -/
def Inherits (f : Forest) (p k : Nat) : Prop :=
  f.isSuspended k = (f.isLocallySuspended k || f.isCancelled k || f.isSuspended p)

/-- **Every child but those in a list inherits from its parent**, and what is cancelled is suspended. -/
structure GovernedBut (todo : List Nat) (f : Forest) : Prop where
  sane : f.Sane
  parent : ∀ {p k}, k ∈ f.children p → f.parent? k = some p
  inherits : ∀ {p k}, k ∈ f.children p → k ∉ todo → f.Inherits p k
  cancelled : ∀ {k}, f.isCancelled k = true → f.isSuspended k = true

/-- **A forest whose suspended flags are right.** -/
def Governed (f : Forest) : Prop := f.GovernedBut []

theorem GovernedBut.congr (h : f.GovernedBut todo) (hs : g.Sane) (hc : ∀ p k, k ∈ g.children p → k ∈ f.children p)
    (hp : ∀ k, g.view Node.parent k = f.view Node.parent k)
    (hl : ∀ k, g.view Node.localSuspended k = f.view Node.localSuspended k)
    (hsusp : ∀ k, g.view Node.suspended k = f.view Node.suspended k)
    (hcan : ∀ k, g.view Node.cancelled k = f.view Node.cancelled k) : g.GovernedBut todo := by
  have hsuspended : ∀ k, g.isSuspended k = f.isSuspended k := fun k => has_congr (hsusp k)
  have hlocal : ∀ k, g.isLocallySuspended k = f.isLocallySuspended k := fun k => has_congr (hl k)
  have hcancelled : ∀ k, g.isCancelled k = f.isCancelled k := fun k => has_congr (hcan k)
  refine ⟨hs, fun {p k} hk => ?_, fun {p k} hk ht => ?_, fun {k} hk => ?_⟩
  · exact (congrArg Option.join (hp k)).trans (h.parent (hc p k hk))
  · unfold Inherits
    rw [hsuspended, hlocal, hcancelled, hsuspended]
    exact h.inherits (hc p k hk) ht
  · rw [hsuspended]
    exact h.cancelled (hcancelled k ▸ hk)

theorem governed_root : root.Governed := by
  have hnone : ∀ {p k : Nat} {P : Prop}, k ∈ root.children p → P := by
    intro p k P h
    cases p <;> cases h
  refine ⟨sane_root, hnone, fun h _ => hnone h, fun {k} h => ?_⟩
  cases k <;> cases h

/-! ## Suspending -/

def hold (f : Forest) (id : Nat) (b : Bool) : Forest := f.update id fun n => { n with suspended := b }

theorem view_hold {α : Type} {v : Node → α} (hv : ∀ n b, v { n with suspended := b } = v n) (f : Forest) (id : Nat)
    (b : Bool) (k : Nat) : view v (f.hold id b) k = view v f k := view_update_of_eq (fun n => hv n b) f id k

theorem size_hold (f : Forest) (id : Nat) (b : Bool) : (f.hold id b).size = f.size := size_update f id _

theorem children_hold (f : Forest) (id : Nat) (b : Bool) (p : Nat) : (f.hold id b).children p = f.children p :=
  children_congr (view_hold (fun _ _ => rfl) f id b) p

theorem isSuspended_hold {n : Node} (hn : f.node? id = some n) (b : Bool) (k : Nat) :
    (f.hold id b).isSuspended k = if id = k then b else f.isSuspended k := by
  unfold isSuspended has hold
  rw [node?_update]
  by_cases h : id = k
  · subst h
    rw [if_pos rfl, if_pos rfl, hn]
    rfl
  · rw [if_neg h, if_neg h]

theorem Sane.hold (h : f.Sane) (id : Nat) (b : Bool) : (f.hold id b).Sane :=
  h.weaken (size_hold f id b) (fun p => children_hold f id b p ▸ .refl _) fun k =>
    has_congr (view_hold (fun _ _ => rfl) f id b k)

theorem isSuspended_eq {n : Node} (hn : f.node? k = some n) : f.isSuspended k = n.suspended := by
  unfold isSuspended has
  rw [hn]
  rfl

theorem shouldBeSuspended_eq {n : Node} (hn : f.node? k = some n) (hp : f.parent? k = some p) :
    f.shouldBeSuspended n = (f.isLocallySuspended k || f.isCancelled k || f.isSuspended p) := by
  have hparent : n.parent = some p := by
    rw [parent?, view, hn] at hp
    exact hp
  unfold shouldBeSuspended isLocallySuspended isCancelled
  rw [hparent, has, has, hn]
  rfl

/-- **A context whose flag is right** need not wait any longer, and nor need its children. -/
theorem GovernedBut.pass {n : Node} (h : f.GovernedBut (id :: todo)) (hn : f.node? id = some n)
    (he : f.shouldBeSuspended n = n.suspended) : f.GovernedBut todo := by
  refine ⟨h.sane, h.parent, fun {p k} hk ht => ?_, h.cancelled⟩
  by_cases hid : k = id
  · subst hid
    unfold Inherits
    rw [isSuspended_eq hn, ← he]
    exact shouldBeSuspended_eq hn (h.parent hk)
  · exact h.inherits hk fun hm => (List.mem_cons.1 hm).elim hid ht

/-- **A context whose flag is set right** lets its children wait. -/
theorem GovernedBut.hold {n : Node} (h : f.GovernedBut (id :: todo)) (hn : f.node? id = some n) :
    (f.hold id (f.shouldBeSuspended n)).GovernedBut (n.children ++ todo) := by
  have hsuspended := isSuspended_hold hn (f.shouldBeSuspended n)
  have hlocal : ∀ k, (f.hold id (f.shouldBeSuspended n)).isLocallySuspended k = f.isLocallySuspended k :=
    fun k => has_congr (view_hold (fun _ _ => rfl) f id _ k)
  have hcancelled : ∀ k, (f.hold id (f.shouldBeSuspended n)).isCancelled k = f.isCancelled k :=
    fun k => has_congr (view_hold (fun _ _ => rfl) f id _ k)
  have hchildren : n.children = f.children id := by
    rw [children, view, hn]
    rfl
  refine ⟨h.sane.hold id _, fun {p k} hk => ?_, fun {p k} hk ht => ?_, fun {k} hk => ?_⟩
  · rw [children_hold] at hk
    exact (congrArg Option.join (view_hold (fun _ _ => rfl) f id _ k)).trans (h.parent hk)
  · rw [children_hold] at hk
    obtain ⟨hnew, htodo⟩ := not_or.1 (List.mem_append.not.1 ht)
    -- the parent is another context, since its children wait
    have hpid : id ≠ p := fun hip => hnew (by rw [hchildren, hip]; exact hk)
    unfold Inherits
    rw [hsuspended, hsuspended, if_neg hpid, hlocal, hcancelled]
    by_cases hid : id = k
    · subst hid
      rw [if_pos rfl]
      exact shouldBeSuspended_eq hn (h.parent hk)
    · rw [if_neg hid]
      exact h.inherits hk fun hm => (List.mem_cons.1 hm).elim (Ne.symm hid) htodo
  · rw [hcancelled] at hk
    rw [hsuspended]
    split
    · rename_i hid
      have hnode : n.cancelled = true := by
        rw [← hid, isCancelled, has, hn] at hk
        exact hk
      unfold shouldBeSuspended
      rw [hnode, Bool.or_true, Bool.true_or]
    · exact h.cancelled hk

theorem Spreading.congr {start : Nat} (h : Spreading f start seen todo) (hs : g.size = f.size)
    (hc : ∀ p, g.children p = f.children p) : Spreading g start seen todo := by
  refine ⟨h.first, h.nodup, fun k hk => hs ▸ h.present k hk, fun k hk hne => ?_⟩
  obtain ⟨hlt, p, hp, hkp⟩ := h.found k hk hne
  exact ⟨hlt, p, hp, (hc p).symm ▸ hkp⟩

/-! ## What is told -/

def turn? (k : Nat) : Event → Option Bool
  | .suspended id => if id = k then some true else none
  | .resumed id => if id = k then some false else none
  | .cancelled _ => none
  | .stable => none

/-- **What events say about the suspension of a context**, in their order. -/
def transitions (k : Nat) (events : List Event) : List Bool := events.filterMap (turn? k)

def changes (before after : Bool) : List Bool := if before = after then [] else [after]

theorem transitions_append (k : Nat) (l l' : List Event) :
    transitions k (l ++ l') = transitions k l ++ transitions k l' := List.filterMap_append

theorem changes_self (b : Bool) : changes b b = [] := if_pos rfl

theorem turn?_held (k id : Nat) (b : Bool) :
    turn? k (if b then .suspended id else .resumed id) = if id = k then some b else none := by
  cases b <;> rfl

/-- **What going down tells of a context is whether its flag has changed**, and what has been dealt with is left
alone. -/
def Tells (seen : List Nat) (f : Forest) (r : Forest × List Event) : Prop :=
  ∀ k, transitions k r.2 = changes (f.isSuspended k) (r.1.isSuspended k) ∧
    (k ∈ seen → r.1.isSuspended k = f.isSuspended k)

theorem Tells.refl (seen : List Nat) (f : Forest) : Tells seen f (f, []) :=
  fun _ => ⟨(changes_self _).symm, fun _ => rfl⟩

theorem Tells.weaken (h : Tells (id :: seen) f r) : Tells seen f r :=
  fun k => ⟨(h k).1, fun hk => (h k).2 (List.mem_cons_of_mem _ hk)⟩

/-- A flag that has been set is told first; afterwards its context is left alone. -/
theorem Tells.hold {n : Node} (hn : f.node? id = some n) {b : Bool} (hb : b ≠ n.suspended) (hid : id ∉ seen)
    {r : Forest × List Event} (h : Tells (id :: seen) (f.hold id b) r) :
    Tells seen f (r.1, (if b then .suspended id else .resumed id) :: r.2) := by
  intro k
  obtain ⟨htold, hkept⟩ := h k
  have hset := isSuspended_hold hn b k
  have hcons : transitions k ((if b then .suspended id else .resumed id) :: r.2) =
      (if id = k then [b] else []) ++ transitions k r.2 := by
    unfold transitions
    rw [List.filterMap_cons, turn?_held]
    by_cases hk : id = k
    · rw [if_pos hk, if_pos hk]
      rfl
    · rw [if_neg hk, if_neg hk]
      rfl
  rw [hcons, htold]
  by_cases hk : id = k
  · subst hk
    have hend := hkept List.mem_cons_self
    rw [if_pos rfl] at hset
    rw [hend, hset, changes_self, isSuspended_eq hn, if_pos rfl, List.append_nil]
    exact ⟨(if_neg (Ne.symm hb)).symm, fun hm => absurd hm hid⟩
  · rw [if_neg hk] at hset
    rw [hset, if_neg hk, List.nil_append]
    refine ⟨rfl, fun hm => ?_⟩
    rw [hkept (List.mem_cons_of_mem _ hm), hset]

/-- **Suspending goes down as far as it has to**: every step deals with one context, so the fuel suffices, and in the end
no flag is wrong. -/
theorem governed_spread {start : Nat} : ∀ (fuel : Nat) (todo seen : List Nat) (f : Forest), f.GovernedBut todo →
    Spreading f start seen todo → f.size - seen.length ≤ fuel →
      (spreadSuspension fuel todo f).1.Governed ∧ Tells seen f (spreadSuspension fuel todo f)
  | 0, [], seen, f, h, _, _ => ⟨h, .refl seen f⟩
  | _ + 1, [], seen, f, h, _, _ => ⟨h, .refl seen f⟩
  | 0, x :: todo, seen, f, _, hsp, hfuel => by
    have hlt := hsp.length_lt
    omega
  | fuel + 1, x :: todo, seen, f, h, hsp, hfuel => by
    have hlt := hsp.length_lt
    have hmem : x ∈ seen ++ x :: todo := List.mem_append_right _ List.mem_cons_self
    have hseen : x ∉ seen := fun hm => by
      have hnd := List.perm_middle.nodup_iff.1 hsp.nodup
      exact (List.nodup_cons.1 hnd).1 (List.mem_append_left _ hm)
    have hlen : f.size - (x :: seen).length ≤ fuel := by
      rw [List.length_cons]
      omega
    obtain ⟨n, hn⟩ := exists_node (hsp.present x hmem)
    unfold spreadSuspension
    rw [hn]
    simp only
    split
    · rename_i he
      obtain ⟨hgov, htells⟩ := governed_spread fuel todo (x :: seen) f (h.pass hn (beq_iff_eq.1 he)) hsp.skip hlen
      exact ⟨hgov, htells.weaken⟩
    · rename_i he
      have hchildren : n.children = f.children x := by
        rw [children, view, hn]
        rfl
      have hvisit : Spreading (f.hold x (f.shouldBeSuspended n)) start (x :: seen) (n.children ++ todo) := by
        rw [hchildren]
        exact ((hsp.visit h.sane).perm List.perm_append_comm).congr (size_hold f x _) (children_hold f x _)
      obtain ⟨hgov, htells⟩ := governed_spread fuel (n.children ++ todo) (x :: seen) (f.hold x (f.shouldBeSuspended n))
        (h.hold hn) hvisit (by rw [size_hold]; exact hlen)
      exact ⟨hgov, htells.hold hn (fun hb => he (beq_iff_eq.2 hb)) hseen⟩

/-! ## Cancelling -/

theorem isSuspended_mark {x : Nat} {n : Node} (hn : f.node? x = some n) (k : Nat) :
    (f.update x fun n => { n with cancelled := true, suspended := true }).isSuspended k =
      if x = k then true else f.isSuspended k := by
  unfold isSuspended has
  rw [node?_update]
  by_cases h : x = k
  · subst h
    rw [if_pos rfl, if_pos rfl, hn]
    rfl
  · rw [if_neg h, if_neg h]

theorem lt_size_of_node {n : Node} (hn : f.node? k = some n) : k < f.size := (Array.getElem?_eq_some_iff.1 hn).1

/-- **Going down to cancel**: what has been cancelled before or is now is suspended, the rest is as suspended as before,
and what is told of a context is whether its flag has changed. -/
structure Fells (f : Forest) (r : Forest × List Event) : Prop where
  cancelled : ∀ k, f.isCancelled k = true → r.1.isCancelled k = true
  suspended : ∀ k, r.1.isSuspended k = (f.isSuspended k || r.1.isCancelled k)
  told : ∀ k, transitions k r.2 = changes (f.isSuspended k) (r.1.isSuspended k)

theorem Fells.refl (h : ∀ k, f.isCancelled k = true → f.isSuspended k = true) : Fells f (f, []) := by
  refine ⟨fun _ => id, fun k => ?_, fun k => (changes_self _).symm⟩
  cases hc : f.isCancelled k with
  | false => rw [Bool.or_false]
  | true => rw [h k hc, Bool.true_or]

theorem Fells.mark {x : Nat} {n : Node} (hn : f.node? x = some n) {r : Forest × List Event}
    (h : Fells (f.update x fun n => { n with cancelled := true, suspended := true }) r) :
    Fells f (r.1, (if n.suspended then [] else [.suspended x]) ++ r.2) := by
  have hx := lt_size_of_node hn
  have hset := isSuspended_mark hn
  have hcancelled : ∀ k, f.isCancelled k = true ∨ k = x → r.1.isCancelled k = true :=
    fun k hk => h.cancelled k ((isCancelled_mark hx k).2 hk)
  have hsuspended : ∀ k, r.1.isSuspended k = (f.isSuspended k || r.1.isCancelled k) := by
    intro k
    rw [h.suspended, hset]
    by_cases hk : x = k
    · rw [if_pos hk, hcancelled k (.inr hk.symm), Bool.or_true, Bool.or_true]
    · rw [if_neg hk]
  refine ⟨fun k hk => hcancelled k (.inl hk), hsuspended, fun k => ?_⟩
  have hfirst : transitions k (if n.suspended then [] else [Event.suspended x]) =
      if x = k then changes (f.isSuspended k) true else [] := by
    by_cases hk : x = k
    · rw [if_pos hk, ← hk, isSuspended_eq hn]
      cases n.suspended with
      | true => rfl
      | false => exact List.filterMap_cons_some (if_pos rfl)
    · rw [if_neg hk]
      cases n.suspended with
      | true => rfl
      | false => exact List.filterMap_cons_none (if_neg hk)
  rw [transitions_append, hfirst, h.told, hset]
  by_cases hk : x = k
  · have hend : r.1.isSuspended k = true := by rw [hsuspended, hcancelled k (.inr hk.symm), Bool.or_true]
    rw [if_pos hk, if_pos hk, hend, changes_self, List.append_nil]
  · rw [if_neg hk, if_neg hk, List.nil_append]

theorem fells_spread : ∀ (fuel : Nat) (now below : List Nat) (f : Forest),
    (∀ k, f.isCancelled k = true → f.isSuspended k = true) → Fells f (spreadCancellation fuel now below f)
  | 0, _, _, _, h | _ + 1, [], [], _, h => .refl h
  | fuel + 1, [], y :: below, f, h => fells_spread fuel (y :: below).reverse [] f h
  | fuel + 1, x :: now, below, f, h => by
    unfold spreadCancellation
    split
    · exact fells_spread fuel now below f h
    · rename_i n hn
      refine Fells.mark hn (fells_spread fuel now (n.children ++ below) _ fun k hk => ?_)
      rw [isSuspended_mark hn]
      by_cases hx : x = k
      · exact if_pos hx
      · rw [if_neg hx]
        exact h k (((isCancelled_mark (lt_size_of_node hn) k).1 hk).resolve_right (Ne.symm hx))

theorem fells_cancel (h : ∀ k, f.isCancelled k = true → f.isSuspended k = true) (id : Nat) :
    Fells f (f.cancel id) := by
  unfold cancel
  split
  · exact .refl h
  · obtain ⟨hcancelled, hsuspended, htold⟩ := fells_spread (2 * f.size + 2) [id] [] f h
    refine ⟨hcancelled, hsuspended, fun k => ?_⟩
    rw [transitions_append, htold]
    exact List.append_nil _

/-- **Cancelling keeps the flags right**, since all that descends from what is cancelled is cancelled with it. -/
theorem Governed.cancel (h : f.Governed) (id : Nat) : (f.cancel id).1.Governed := by
  have hs := h.sane.cancel id
  have hf := fells_cancel (fun k => h.cancelled) id
  have hchildren := children_cancel h.sane id
  have hparent : ∀ k, (f.cancel id).1.parent? k = f.parent? k :=
    fun k => congrArg Option.join (view_cancel (fun _ => rfl) f id k)
  have hlocal : ∀ k, (f.cancel id).1.isLocallySuspended k = f.isLocallySuspended k :=
    fun k => has_congr (view_cancel (fun _ => rfl) f id k)
  refine ⟨hs, fun {p k} hk => ?_, fun {p k} hk _ => ?_, fun {k} hk => ?_⟩
  · rw [hparent]
    exact h.parent (hchildren p ▸ hk)
  · have hbefore := h.inherits (hchildren p ▸ hk) List.not_mem_nil
    have hdown := hs.cancelled hk
    have hkept := hf.cancelled k
    unfold Inherits at hbefore ⊢
    rw [hf.suspended k, hf.suspended p, hlocal, hbefore]
    revert hdown hkept
    cases f.isLocallySuspended k <;> cases f.isCancelled k <;> cases f.isSuspended p <;>
      cases (f.cancel id).1.isCancelled k <;> cases (f.cancel id).1.isCancelled p <;> decide
  · rw [hf.suspended, hk, Bool.or_true]

/-! ## The operations -/

theorem transitions_settle (k : Nat) : ∀ (fuel id : Nat) (f : Forest), transitions k (settle fuel id f).2 = []
  | 0, _, _ => rfl
  | fuel + 1, id, f => by
    unfold settle
    split
    · rfl
    · simp only
      have hhere : ∀ b : Bool, transitions k (if id = 0 && b then [Event.stable] else []) = [] := by
        intro b
        split <;> rfl
      split
      · rfl
      · split
        · exact hhere _
        · simp only
          rw [transitions_append, hhere, transitions_settle k fuel, List.append_nil]

theorem transitions_clear (k : Nat) (f : Forest) (id : Nat) : transitions k (f.clear id).2 = [] := by
  unfold clear
  split
  · rfl
  · exact transitions_settle k _ _ _

theorem transitions_detach (k : Nat) (f : Forest) (id : Nat) : transitions k (f.detach id).2 = [] := by
  unfold detach
  split
  · rfl
  · rename_i n hn
    split
    · rfl
    · cases n.parent with
      | none => rfl
      | some p => exact transitions_settle k _ _ _

/-- **A new context** is as suspended and as cancelled as its parent. -/
theorem Governed.create (h : f.Governed) {parent : Nat} (hp : parent < f.size) : (f.create parent).1.Governed := by
  have hview : ∀ {α : Type} {v : Node → α} (hc : ∀ n l, v { n with children := l } = v n)
      (hs : ∀ n b, v { n with stable := b } = v n) {k : Nat}, k < f.size →
      view v (f.create parent).1 k = view v f k := by
    intro α v hc hs k hk
    rw [view_create hc hs, if_neg (Nat.ne_of_lt hk)]
  have hnew : ∀ {flag : Node → Bool} (hc : ∀ n l, flag { n with children := l } = flag n)
      (hs : ∀ n b, flag { n with stable := b } = flag n), (f.create parent).1.has flag f.size =
        flag (Node.fresh (some parent) (f.isSuspended parent) (f.isCancelled parent)) := by
    intro flag hc hs
    rw [has_eq, view_create hc hs, if_pos rfl]
    rfl
  have hsuspended : ∀ {k}, k < f.size → (f.create parent).1.isSuspended k = f.isSuspended k :=
    fun hk => has_congr (hview (fun _ _ => rfl) (fun _ _ => rfl) hk)
  have hlocal : ∀ {k}, k < f.size → (f.create parent).1.isLocallySuspended k = f.isLocallySuspended k :=
    fun hk => has_congr (hview (fun _ _ => rfl) (fun _ _ => rfl) hk)
  have hcancelled : ∀ {k}, k < f.size → (f.create parent).1.isCancelled k = f.isCancelled k :=
    fun hk => has_congr (hview (fun _ _ => rfl) (fun _ _ => rfl) hk)
  have hsNew : (f.create parent).1.isSuspended f.size = f.isSuspended parent := hnew (fun _ _ => rfl) (fun _ _ => rfl)
  have hlNew : (f.create parent).1.isLocallySuspended f.size = false := hnew (fun _ _ => rfl) (fun _ _ => rfl)
  have hcNew : (f.create parent).1.isCancelled f.size = f.isCancelled parent := hnew (fun _ _ => rfl) (fun _ _ => rfl)
  refine ⟨h.sane.create hp, fun {p k} hk => ?_, fun {p k} hk _ => ?_, fun {k} hk => ?_⟩
  · rcases (mem_children_create hp).1 hk with hk | ⟨rfl, rfl⟩
    · refine Eq.trans ?_ (h.parent hk)
      exact congrArg Option.join (hview (fun _ _ => rfl) (fun _ _ => rfl) (h.sane.present hk))
    · unfold parent?
      rw [view_create (fun _ _ => rfl) (fun _ _ => rfl), if_pos rfl]
      rfl
  · unfold Inherits
    rcases (mem_children_create hp).1 hk with hk | ⟨rfl, rfl⟩
    · have hkf := h.sane.present hk
      rw [hsuspended hkf, hlocal hkf, hcancelled hkf, hsuspended (Nat.lt_trans (h.sane.newer hk) hkf)]
      exact h.inherits hk List.not_mem_nil
    · rw [hsNew, hlNew, hcNew, hsuspended hp]
      cases hc : f.isCancelled p with
      | false => rfl
      | true => rw [h.cancelled hc]; rfl
  · have hlt := lt_size_of_isCancelled hk
    rw [size_create] at hlt
    rcases Nat.lt_succ_iff_lt_or_eq.1 hlt with hkf | rfl
    · rw [hsuspended hkf]
      exact h.cancelled (hcancelled hkf ▸ hk)
    · rw [hsNew]
      exact h.cancelled (hcNew ▸ hk)

/-- **Suspending** starts at a context whose flag alone may be wrong. -/
theorem Governed.setSuspended (h : f.Governed) (hid : id < f.size) (b : Bool) :
    (f.setSuspended id b).1.Governed ∧
      ∀ k, transitions k (f.setSuspended id b).2 = changes (f.isSuspended k) ((f.setSuspended id b).1.isSuspended k) := by
  generalize hg : (f.update id fun n => { n with localSuspended := b }) = g
  have hsize : g.size = f.size := by rw [← hg, size_update]
  have hview : ∀ {α : Type} {v : Node → α}, (∀ n, v { n with localSuspended := b } = v n) → ∀ k,
      view v g k = view v f k := by
    intro α v hv k
    rw [← hg]
    exact view_update_of_eq hv f id k
  have hchildren : ∀ p, g.children p = f.children p := fun p => children_congr (hview fun _ => rfl) p
  have hsuspended : ∀ k, g.isSuspended k = f.isSuspended k := fun k => has_congr (hview (fun _ => rfl) k)
  have hcancelled : ∀ k, g.isCancelled k = f.isCancelled k := fun k => has_congr (hview (fun _ => rfl) k)
  have hlocal : ∀ k, k ≠ id → g.isLocallySuspended k = f.isLocallySuspended k := by
    intro k hk
    unfold isLocallySuspended has
    rw [← hg, node?_update, if_neg (Ne.symm hk)]
  have hbut : g.GovernedBut [id] := by
    refine ⟨h.sane.weaken hsize (fun p => hchildren p ▸ .refl _) hcancelled, fun {p k} hk => ?_, fun {p k} hk ht => ?_,
      fun {k} hk => ?_⟩
    · refine Eq.trans ?_ (h.parent (hchildren p ▸ hk))
      exact congrArg Option.join (hview (fun _ => rfl) k)
    · unfold Inherits
      rw [hsuspended, hcancelled, hsuspended, hlocal k (fun he => ht (List.mem_singleton.2 he))]
      exact h.inherits (hchildren p ▸ hk) List.not_mem_nil
    · rw [hsuspended]
      exact h.cancelled (hcancelled k ▸ hk)
  have hstart : Spreading g id [] [id] := by
    refine ⟨List.mem_singleton_self id, List.pairwise_singleton _ id, fun k hk => ?_, fun k hk hne => ?_⟩
    · rw [List.mem_singleton.1 hk, hsize]
      exact hid
    · exact absurd (List.mem_singleton.1 hk) hne
  obtain ⟨hgov, htells⟩ := governed_spread (f.size + 1) [id] [] g hbut hstart (by rw [hsize]; omega)
  unfold Forest.setSuspended
  rw [hg]
  exact ⟨hgov, fun k => hsuspended k ▸ (htells k).1⟩

end Forest

namespace Operation

/-- **An operation on a context that there is.** -/
def Finds (f : Forest) : Operation → Prop
  | .create id | .setStable id _ | .setSuspended id _ | .cancel id | .clear id | .detach id => id < f.size
  | .whenStable _ => True

instance (f : Forest) : (op : Operation) → Decidable (op.Finds f)
  | .create id | .setStable id _ | .setSuspended id _ | .cancel id | .clear id | .detach id => Nat.decLt id f.size
  | .whenStable _ => .isTrue trivial

end Operation

namespace Forest

variable {f : Forest} {k : Nat}

/-- **What an operation does to the flags**: they stay right, nothing that is cancelled is revived, and what is told of a
context is whether its flag has changed; nothing is told of a context that has just been made. -/
structure Guides (f : Forest) (r : Forest × List Event) : Prop where
  governed : r.1.Governed
  size : f.size ≤ r.1.size
  cancelled : ∀ k, f.isCancelled k = true → r.1.isCancelled k = true
  told : ∀ k, transitions k r.2 = if k < f.size then changes (f.isSuspended k) (r.1.isSuspended k) else []

theorem isSuspended_of_size_le (h : f.size ≤ k) : f.isSuspended k = false := by
  unfold isSuspended has node?
  rw [Array.getElem?_eq_none h]
  rfl

/-- An operation that makes no context says of none that there was not that it is suspended. -/
theorem guides_of_told {r : Forest × List Event} (hg : r.1.Governed) (hs : r.1.size = f.size)
    (hc : ∀ k, f.isCancelled k = true → r.1.isCancelled k = true)
    (ht : ∀ k, transitions k r.2 = changes (f.isSuspended k) (r.1.isSuspended k)) : f.Guides r := by
  refine ⟨hg, Nat.le_of_eq hs.symm, hc, fun k => ?_⟩
  by_cases hk : k < f.size
  · rw [if_pos hk, ht]
  · have hle := Nat.le_of_not_lt hk
    rw [if_neg hk, ht, isSuspended_of_size_le hle, isSuspended_of_size_le (hs.symm ▸ hle), changes_self]

theorem Governed.guides (h : f.Governed) {r : Forest × List Event} (hsize : r.1.size = f.size) (hs : r.1.Sane)
    (hc : ∀ p k, k ∈ r.1.children p → k ∈ f.children p)
    (hv : ∀ {α : Type} {v : Node → α}, (∀ n b, v { n with localStable := b } = v n) →
      (∀ n b, v { n with stable := b } = v n) → (∀ n b, v { n with attached := b } = v n) →
      (∀ n l, v { n with children := l } = v n) → ∀ k, view v r.1 k = view v f k)
    (ht : ∀ k, transitions k r.2 = []) : f.Guides r := by
  have hparent := hv (v := Node.parent) (fun _ _ => rfl) (fun _ _ => rfl) (fun _ _ => rfl) fun _ _ => rfl
  have hlocal := hv (v := Node.localSuspended) (fun _ _ => rfl) (fun _ _ => rfl) (fun _ _ => rfl) fun _ _ => rfl
  have hsuspended := hv (v := Node.suspended) (fun _ _ => rfl) (fun _ _ => rfl) (fun _ _ => rfl) fun _ _ => rfl
  have hcancelled := hv (v := Node.cancelled) (fun _ _ => rfl) (fun _ _ => rfl) (fun _ _ => rfl) fun _ _ => rfl
  have hgov := h.congr hs hc hparent hlocal hsuspended hcancelled
  refine guides_of_told hgov hsize (fun k hk => (has_congr (hcancelled k)).trans hk) fun k => ?_
  have hsame : r.1.isSuspended k = f.isSuspended k := has_congr (hsuspended k)
  rw [ht, hsame, changes_self]

/-- **Every operation keeps the flags right** and tells of every change. -/
theorem Governed.act (h : f.Governed) {op : Operation} (hf : op.Finds f) : f.Guides (op.act f) := by
  cases op with
  | create parent =>
    refine ⟨h.create hf, ?_, fun k hk => ?_, fun k => ?_⟩
    · exact (size_create f parent).symm ▸ Nat.le_succ _
    · exact (isCancelled_create f parent k).trans ((if_neg (Nat.ne_of_lt (lt_size_of_isCancelled hk))).trans hk)
    · have hnone : transitions k (f.create parent).2 = [] := transitions_settle k _ _ _
      refine hnone.trans ?_
      split
      · rename_i hk
        have hsame : (f.create parent).1.isSuspended k = f.isSuspended k := by
          refine has_congr ?_
          rw [view_create (fun _ _ => rfl) (fun _ _ => rfl), if_neg (Nat.ne_of_lt hk)]
        show [] = changes (f.isSuspended k) ((f.create parent).1.isSuspended k)
        rw [hsame, changes_self]
      · rfl
  | setStable id b =>
    exact h.guides (size_setStable f id b) (h.sane.setStable id b) (fun p k hk => children_setStable f id b p ▸ hk)
      (fun hl hs _ _ => view_setStable hl hs f id b) fun k => transitions_settle k _ _ _
  | setSuspended id b =>
    obtain ⟨hg, ht⟩ := h.setSuspended hf b
    exact guides_of_told hg (size_setSuspended f id b) (fun k hk => (isCancelled_setSuspended f id b k).trans hk) ht
  | cancel id =>
    have hfells := fells_cancel (fun k => h.cancelled) id
    exact guides_of_told (h.cancel id) (size_cancel h.sane id) hfells.cancelled hfells.told
  | clear id =>
    refine h.guides (size_clear f id) (h.sane.clear id) (fun p k hk => ?_)
      (fun _ hs ha hc => view_clear ha hc hs f id) fun k => transitions_clear k f id
    have hk : k ∈ (f.clear id).1.children p := hk
    rw [children_clear] at hk
    split at hk
    · cases hk
    · exact hk
  | detach id =>
    refine h.guides (size_detach f id) (h.sane.detach id) (fun p k hk => ?_)
      (fun _ hs ha hc => view_detach ha hc hs f id) fun k => transitions_detach k f id
    have hk : k ∈ (f.detach id).1.children p := hk
    rcases children_detach f id p with hc | hc
    · exact hc ▸ hk
    · rw [hc] at hk
      exact (List.mem_filter.1 hk).1
  | whenStable task => exact guides_of_told h rfl (fun _ => id) fun k => (changes_self _).symm

end Forest

/-! ## What those who watch receive -/

theorem Stack.height_pushAll {α : Type} : ∀ (l : List α) (s : Stack α), (l.foldl Stack.push s).height = s.height + l.length
  | [], _ => rfl
  | a :: l, s => by
    rw [List.foldl_cons, height_pushAll l, List.length_cons]
    show s.height + 1 + l.length = s.height + (l.length + 1)
    omega

/-- **Events may be received in pieces**: what there is room for is the same. -/
theorem Subscriber.receive_append (s : Subscriber) (l l' : List Event) :
    s.receive (l ++ l') = (s.receive l).receive l' := by
  have hroom : capacity - (s.receive l).unread.height = capacity - s.unread.height - l.length := by
    have hheight : (s.receive l).unread.height = s.unread.height + (l.take (capacity - s.unread.height)).length :=
      Stack.height_pushAll _ _
    rw [hheight, List.length_take]
    omega
  have hunread : (s.receive (l ++ l')).unread = ((s.receive l).receive l').unread := by
    unfold receive at hroom ⊢
    simp only at hroom ⊢
    rw [hroom, List.take_append, List.foldl_append]
  calc s.receive (l ++ l') = { s with unread := (s.receive (l ++ l')).unread } := rfl
    _ = { s with unread := ((s.receive l).receive l').unread } := by rw [hunread]
    _ = (s.receive l).receive l' := rfl

def Tree.present (t : Tree) : List Subscriber := t.subscribers.filter (·.present)

theorem Tree.present_publish (t : Tree) (events : List Event) :
    (t.publish events).present = t.present.map (·.receive events) := by
  unfold publish
  split
  · rename_i he
    have hnone : ∀ s : Subscriber, s.receive events = s := by
      intro s
      rw [List.isEmpty_iff.1 he]
      unfold Subscriber.receive
      rw [List.take_nil]
      rfl
    simp only [hnone, List.map_id']
  · show ((t.subscribers.filter Subscriber.present).map (Subscriber.receive · events)).filter Subscriber.present = _
    rw [List.filter_map]
    have hsame : (Subscriber.present ∘ (Subscriber.receive · events)) = Subscriber.present := rfl
    rw [hsame, List.filter_filter]
    simp only [Bool.and_self]
    rfl

namespace Tree

variable {t : Tree} {op : Operation} {ops : List Operation}

/-- Every operation finds its context there; the root may be detached too. -/
def Finding : Tree → List Operation → Prop
  | _, [] => True
  | t, op :: ops => op.Finds t.forest ∧ (t.perform op).Finding ops

instance decidableFinding : ∀ (t : Tree) (ops : List Operation), Decidable (t.Finding ops)
  | _, [] => .isTrue trivial
  | t, op :: ops =>
    have := decidableFinding (t.perform op) ops
    inferInstanceAs (Decidable (op.Finds t.forest ∧ (t.perform op).Finding ops))

def told : Tree → List Operation → List Event
  | _, [] => []
  | t, op :: ops => (op.act t.forest).2 ++ (t.perform op).told ops

/-- **Turns that lead from a flag to another**: each changes the flag. -/
def Alternates : Bool → List Bool → Bool → Prop
  | b, [], c => b = c
  | b, d :: l, c => d ≠ b ∧ Alternates d l c

theorem alternates_changes (b c : Bool) : Alternates b (Forest.changes b c) c := by
  unfold Forest.changes
  by_cases h : b = c
  · rw [if_pos h]
    exact h
  · rw [if_neg h]
    exact ⟨Ne.symm h, rfl⟩

theorem Alternates.append : ∀ {l l' : List Bool} {a b c : Bool}, Alternates a l b → Alternates b l' c →
    Alternates a (l ++ l') c
  | [], _, _, _, _, h, h' => by
    cases h
    exact h'
  | _ :: _, _, _, _, _, ⟨hne, h⟩, h' => ⟨hne, h.append h'⟩

theorem finding_append : ∀ {pre : List Operation} {t : Tree} {post : List Operation}, t.Finding (pre ++ post) →
    t.Finding pre ∧ (t.after pre).Finding post
  | [], _, _, h => ⟨trivial, h⟩
  | _ :: _, _, _, ⟨hf, h⟩ => ⟨⟨hf, (finding_append h).1⟩, (finding_append h).2⟩

theorem after_append (t : Tree) (pre post : List Operation) : t.after (pre ++ post) = (t.after pre).after post :=
  List.foldl_append

/-- **What holds of a history of operations**, from a forest whose flags are right. -/
structure Keeps (t : Tree) (ops : List Operation) : Prop where
  governed : (t.after ops).forest.Governed
  size : t.forest.size ≤ (t.after ops).forest.size
  cancelled : ∀ k, t.forest.isCancelled k = true → (t.after ops).forest.isCancelled k = true
  alternates : ∀ k < t.forest.size, Alternates (t.forest.isSuspended k) (Forest.transitions k (t.told ops))
    ((t.after ops).forest.isSuspended k)
  unborn : ∀ k, (t.after ops).forest.size ≤ k → Forest.transitions k (t.told ops) = []
  present : (t.after ops).present = t.present.map (·.receive (t.told ops))

theorem keeps_after : ∀ (ops : List Operation) (t : Tree), t.forest.Governed → t.Finding ops → Keeps t ops
  | [], t, h, _ => by
    refine ⟨h, Nat.le_refl _, fun _ => id, fun _ _ => rfl, fun _ _ => rfl, ?_⟩
    have hnone : ∀ s : Subscriber, s.receive [] = s := by
      intro s
      unfold Subscriber.receive
      rw [List.take_nil]
      rfl
    show t.present = t.present.map (·.receive [])
    simp only [hnone, List.map_id']
  | op :: ops, t, h, ⟨hop, hf⟩ => by
    have hforest := forest_perform t op
    have hguides := h.act hop
    obtain ⟨hgov, hsize, hcan, halt, hunborn, hpresent⟩ :=
      keeps_after ops (t.perform op) (by rw [hforest]; exact hguides.governed) hf
    rw [hforest] at hsize hcan halt
    have hafter : t.after (op :: ops) = (t.perform op).after ops := rfl
    have htold : t.told (op :: ops) = (op.act t.forest).2 ++ (t.perform op).told ops := rfl
    refine ⟨hgov, Nat.le_trans hguides.size hsize, fun k hk => hcan k (hguides.cancelled k hk), fun k hk => ?_,
      fun k hk => ?_, ?_⟩
    · rw [htold, Forest.transitions_append, hguides.told, if_pos hk]
      exact (alternates_changes _ _).append (halt k (Nat.lt_of_lt_of_le hk hguides.size))
    · rw [hafter] at hk
      have hlt : ¬ k < t.forest.size := Nat.not_lt.2 (Nat.le_trans (Nat.le_trans hguides.size hsize) hk)
      rw [htold, Forest.transitions_append, hguides.told, if_neg hlt, hunborn k hk]
      rfl
    · have hfirst : (t.perform op).present = t.present.map (·.receive (op.act t.forest).2) := by
        unfold present
        rw [subscribers_perform]
        exact present_publish t _
      rw [hafter, hpresent, hfirst, htold, List.map_map]
      refine List.map_congr_left fun s _ => ?_
      exact (s.receive_append _ _).symm

/-- **What is known of suspension after operations.**  Every child is suspended if it is suspended itself or cancelled,
or its parent is suspended, and is cancelled if its parent is; what is cancelled is suspended, and stays cancelled.  Each
operation tells of every change of a flag once, and of nothing else; so the turns told of a context since any moment when
it was there lead from its flag at that moment to its present one, each changing it, and none is told before.  Those who
watch receive what is told, as far as they have room. -/
structure Regular (t : Tree) (ops : List Operation) : Prop where
  inherits : ∀ p, ∀ k ∈ (t.after ops).forest.children p, (t.after ops).forest.isSuspended k =
    ((t.after ops).forest.isLocallySuspended k || (t.after ops).forest.isCancelled k ||
      (t.after ops).forest.isSuspended p)
  passed : ∀ p, ∀ k ∈ (t.after ops).forest.children p,
    (t.after ops).forest.isCancelled p = true → (t.after ops).forest.isCancelled k = true
  cancelled : ∀ k, (t.after ops).forest.isCancelled k = true → (t.after ops).forest.isSuspended k = true
  forGood : ∀ pre post, ops = pre ++ post → ∀ k, (t.after pre).forest.isCancelled k = true →
    (t.after ops).forest.isCancelled k = true
  each : ∀ pre op post, ops = pre ++ op :: post → ∀ k,
    Forest.transitions k (op.act (t.after pre).forest).2 = if k < (t.after pre).forest.size then
      Forest.changes ((t.after pre).forest.isSuspended k) ((t.after (pre ++ [op])).forest.isSuspended k) else []
  replay : ∀ pre post, ops = pre ++ post → ∀ k < (t.after pre).forest.size,
    Alternates ((t.after pre).forest.isSuspended k) (Forest.transitions k ((t.after pre).told post))
      ((t.after ops).forest.isSuspended k)
  unborn : ∀ pre post, ops = pre ++ post → ∀ k, (t.after pre).forest.size ≤ k →
    Forest.transitions k (t.told pre) = []
  heard : (t.after ops).present = t.present.map (·.receive (t.told ops))

/-- **Suspension and cancellation are exact** after whatever operations, whoever watches. -/
theorem suspension_exact (watchers : List Subscriber) (ops : List Operation)
    (hf : (watched watchers).Finding ops) : Regular (watched watchers) ops := by
  have hroot : (watched watchers).forest.Governed := Forest.governed_root
  have hall := keeps_after ops _ hroot hf
  have hsplit : ∀ pre post, ops = pre ++ post →
      Keeps (watched watchers) pre ∧ Keeps ((watched watchers).after pre) post := by
    intro pre post he
    rw [he] at hf
    obtain ⟨hpre, hpost⟩ := finding_append hf
    have hkeeps := keeps_after pre _ hroot hpre
    exact ⟨hkeeps, keeps_after post _ hkeeps.governed hpost⟩
  refine ⟨fun p k hk => hall.governed.inherits hk List.not_mem_nil, fun p k hk => hall.governed.sane.cancelled hk,
    fun k => hall.governed.cancelled, fun pre post he k hk => ?_, fun pre op post he k => ?_, fun pre post he k hk => ?_,
    fun pre post he k hk => (hsplit pre post he).1.unborn k hk, hall.present⟩
  · rw [he, after_append]
    exact (hsplit pre post he).2.cancelled k hk
  · have hgov := (hsplit pre (op :: post) he).1.governed
    rw [he] at hf
    rw [after_concat, forest_perform]
    exact (hgov.act (finding_append hf).2.1).told k
  · rw [he, after_append]
    exact (hsplit pre post he).2.alternates k hk

/-- A branch suspended twice, once with its parent: it is told of once, and resumes when both have; what is cancelled
stays suspended, and a child made under it is. -/
theorem suspension_exact_nested :
    let ops : List Operation := [.create 0, .create 1, .setSuspended 2 true, .setSuspended 1 true,
      .setSuspended 2 false, .setSuspended 1 false, .detach 2, .setSuspended 0 true, .cancel 1, .create 1,
      .setSuspended 0 false, .detach 0, .clear 0]
    (watched []).Finding ops ∧ Regular (watched []) ops ∧
      Forest.transitions 2 ((watched []).told ops) = [true, false] ∧
      Forest.transitions 1 ((watched []).told ops) = [true, false, true] ∧
      ((watched []).after ops).forest.isSuspended 3 = true :=
  ⟨by decide, suspension_exact [] _ (by decide), by decide, by decide, by decide⟩

end Tree

end Remedy.Context

