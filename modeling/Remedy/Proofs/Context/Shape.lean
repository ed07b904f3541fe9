import Remedy.Session
/-!
# Proofs.Context.Shape — what the operations on contexts leave alone

`view p` is what a forest shows of its contexts through `p`.  Bringing flags up to date changes nothing but the flags
themselves (`view_settle`, `view_spreadSuspension`), and what is left of an operation is what it does to the one or two
contexts that it names.  A tree changes its forest by an operation of forests and by nothing else (`forest_change`).
-/
namespace Remedy.Context

namespace Forest

variable {α : Type}

/-- **What a forest shows of a context through `p`.** -/
def view (p : Node → α) (f : Forest) (k : Nat) : Option α := (f.node? k).map p

theorem has_eq (f : Forest) (flag : Node → Bool) (k : Nat) : f.has flag k = (f.view flag k).getD false := by
  unfold has view
  cases f.node? k <;> rfl

theorem node?_update (f : Forest) (id k : Nat) (g : Node → Node) :
    (f.update id g).node? k = if id = k then (f.node? k).map g else f.node? k := by
  simp only [node?, update, Array.getElem?_modify]

theorem size_update (f : Forest) (id : Nat) (g : Node → Node) : (f.update id g).size = f.size := by
  simp [size, update]

theorem view_update_of_eq {p : Node → α} {g : Node → Node} (h : ∀ n, p (g n) = p n) (f : Forest) (id k : Nat) :
    view p (f.update id g) k = view p f k := by
  unfold view
  rw [node?_update]
  split
  · rw [Option.map_map]
    exact congrArg (fun q => (f.node? k).map q) (funext h)
  · rfl

/-! ## Flags brought up to date -/

/-- **Bringing the stable flags up to date changes nothing else.** -/
theorem view_settle {p : Node → α} (hp : ∀ n b, p { n with stable := b } = p n) (k : Nat) :
    ∀ (fuel id : Nat) (f : Forest), view p (settle fuel id f).1 k = view p f k
  | 0, _, _ => rfl
  | fuel + 1, id, f => by
    unfold settle
    split
    · rfl
    · rename_i n hn
      simp only
      split
      · rfl
      · cases n.parent with
        | none => exact view_update_of_eq (fun n => hp n _) f id k
        | some q =>
          simp only
          rw [view_settle hp k fuel q]
          exact view_update_of_eq (fun n => hp n _) f id k

theorem size_settle : ∀ (fuel id : Nat) (f : Forest), (settle fuel id f).1.size = f.size
  | 0, _, _ => rfl
  | fuel + 1, id, f => by
    unfold settle
    split
    · rfl
    · rename_i n hn
      simp only
      split
      · rfl
      · cases n.parent with
        | none => exact size_update f id _
        | some q =>
          simp only
          rw [size_settle fuel q]
          exact size_update f id _

/-- **Bringing the suspended flags up to date changes nothing else.** -/
theorem view_spreadSuspension {p : Node → α} (hp : ∀ n b, p { n with suspended := b } = p n) (k : Nat) :
    ∀ (fuel : Nat) (ids : List Nat) (f : Forest), view p (spreadSuspension fuel ids f).1 k = view p f k
  | 0, _, _ | _ + 1, [], _ => rfl
  | fuel + 1, id :: rest, f => by
    unfold spreadSuspension
    split
    · exact view_spreadSuspension hp k fuel rest f
    · rename_i n hn
      simp only
      split
      · exact view_spreadSuspension hp k fuel rest f
      · rw [view_spreadSuspension hp k fuel]
        exact view_update_of_eq (fun n => hp n _) f id k

theorem size_spreadSuspension : ∀ (fuel : Nat) (ids : List Nat) (f : Forest),
    (spreadSuspension fuel ids f).1.size = f.size
  | 0, _, _ | _ + 1, [], _ => rfl
  | fuel + 1, id :: rest, f => by
    unfold spreadSuspension
    split
    · exact size_spreadSuspension fuel rest f
    · rename_i n hn
      simp only
      split
      · exact size_spreadSuspension fuel rest f
      · rw [size_spreadSuspension fuel]
        exact size_update f id _

theorem view_release {p : Node → α} (hp : ∀ n b, p { n with attached := b } = p n) (k : Nat) :
    ∀ (ids : List Nat) (f : Forest), view p (f.release ids) k = view p f k
  | [], _ => rfl
  | id :: ids, f => by
    have e : f.release (id :: ids) = (f.update id fun n => { n with attached := false }).release ids := rfl
    rw [e, view_release hp k ids]
    exact view_update_of_eq (fun n => hp n false) f id k

theorem size_release : ∀ (ids : List Nat) (f : Forest), (f.release ids).size = f.size
  | [], _ => rfl
  | id :: ids, f => by
    have e : f.release (id :: ids) = (f.update id fun n => { n with attached := false }).release ids := rfl
    rw [e, size_release ids]
    exact size_update f id _

/-! ## The operations -/

def grown (f : Forest) (n : Node) : Forest := ⟨f.nodes.push n⟩

theorem view_grown (p : Node → α) (f : Forest) (n : Node) (k : Nat) :
    view p (f.grown n) k = if k = f.size then some (p n) else view p f k := by
  unfold view node? grown
  rw [Array.getElem?_push]
  unfold size
  split <;> rfl

theorem size_grown (f : Forest) (n : Node) : (f.grown n).size = f.size + 1 := by
  simp [size, grown]

/-- A forest with a new child of a context, whose own flag is not brought up to date yet. -/
def withChild (f : Forest) (parent : Nat) : Forest :=
  (f.grown (Node.fresh (some parent) (f.has Node.suspended parent) (f.has Node.cancelled parent))).update parent
    fun n => { n with children := f.size :: n.children }

theorem create_eq (f : Forest) (parent : Nat) : f.create parent = (f.withChild parent).settleFrom parent := rfl

theorem view_withChild {p : Node → α} (hc : ∀ n l, p { n with children := l } = p n) (f : Forest) (parent k : Nat) :
    view p (f.withChild parent) k = if k = f.size then
        some (p (Node.fresh (some parent) (f.has Node.suspended parent) (f.has Node.cancelled parent)))
      else view p f k := by
  rw [withChild, view_update_of_eq (fun n => hc n _), view_grown]

theorem size_withChild (f : Forest) (parent : Nat) : (f.withChild parent).size = f.size + 1 := by
  rw [withChild, size_update, size_grown]

theorem size_create (f : Forest) (parent : Nat) : (f.create parent).1.size = f.size + 1 := by
  rw [create_eq, settleFrom, size_settle, size_withChild]

theorem size_setStable (f : Forest) (id : Nat) (b : Bool) : (f.setStable id b).1.size = f.size := by
  unfold setStable
  rw [settleFrom, size_settle, size_update]

theorem size_setSuspended (f : Forest) (id : Nat) (b : Bool) : (f.setSuspended id b).1.size = f.size := by
  unfold setSuspended
  rw [size_spreadSuspension, size_update]

theorem size_detach (f : Forest) (id : Nat) : (f.detach id).1.size = f.size := by
  unfold detach
  split
  · rfl
  · rename_i n hn
    split
    · rfl
    · cases n.parent with
      | none => exact size_release _ f
      | some q =>
        simp only
        rw [settleFrom, size_settle, size_update, size_release]

theorem size_clear (f : Forest) (id : Nat) : (f.clear id).1.size = f.size := by
  unfold clear
  split
  · rfl
  · rw [settleFrom, size_settle, size_update, size_release]

theorem view_setStable {p : Node → α} (hl : ∀ n b, p { n with localStable := b } = p n)
    (hs : ∀ n b, p { n with stable := b } = p n) (f : Forest) (id : Nat) (b : Bool) (k : Nat) :
    view p (f.setStable id b).1 k = view p f k := by
  unfold setStable
  rw [settleFrom, view_settle hs]
  exact view_update_of_eq (fun n => hl n b) f id k

theorem view_setSuspended {p : Node → α} (hl : ∀ n b, p { n with localSuspended := b } = p n)
    (hs : ∀ n b, p { n with suspended := b } = p n) (f : Forest) (id : Nat) (b : Bool) (k : Nat) :
    view p (f.setSuspended id b).1 k = view p f k := by
  unfold setSuspended
  rw [view_spreadSuspension hs]
  exact view_update_of_eq (fun n => hl n b) f id k

theorem view_detach {p : Node → α} (ha : ∀ n b, p { n with attached := b } = p n)
    (hc : ∀ n l, p { n with children := l } = p n) (hs : ∀ n b, p { n with stable := b } = p n)
    (f : Forest) (id k : Nat) : view p (f.detach id).1 k = view p f k := by
  unfold detach
  split
  · rfl
  · rename_i n hn
    split
    · rfl
    · cases n.parent with
      | none => exact view_release ha k _ f
      | some q =>
        simp only
        rw [settleFrom, view_settle hs, view_update_of_eq (fun n => hc n _), view_release ha]

theorem view_clear {p : Node → α} (ha : ∀ n b, p { n with attached := b } = p n)
    (hc : ∀ n l, p { n with children := l } = p n) (hs : ∀ n b, p { n with stable := b } = p n)
    (f : Forest) (id k : Nat) : view p (f.clear id).1 k = view p f k := by
  unfold clear
  split
  · rfl
  · rw [settleFrom, view_settle hs, view_update_of_eq (fun n => hc n _), view_release ha]

theorem view_create {p : Node → α} (hc : ∀ n l, p { n with children := l } = p n)
    (hs : ∀ n b, p { n with stable := b } = p n) (f : Forest) (parent k : Nat) :
    view p (f.create parent).1 k = if k = f.size then
        some (p (Node.fresh (some parent) (f.has Node.suspended parent) (f.has Node.cancelled parent)))
      else view p f k := by
  rw [create_eq, settleFrom, view_settle hs, view_withChild hc]

theorem isCancelled_setStable (f : Forest) (id : Nat) (b : Bool) (k : Nat) :
    (f.setStable id b).1.isCancelled k = f.isCancelled k := by
  unfold isCancelled
  rw [has_eq, has_eq, view_setStable (fun _ _ => rfl) (fun _ _ => rfl)]

theorem isCancelled_setSuspended (f : Forest) (id : Nat) (b : Bool) (k : Nat) :
    (f.setSuspended id b).1.isCancelled k = f.isCancelled k := by
  unfold isCancelled
  rw [has_eq, has_eq, view_setSuspended (fun _ _ => rfl) (fun _ _ => rfl)]

theorem isCancelled_detach (f : Forest) (id k : Nat) : (f.detach id).1.isCancelled k = f.isCancelled k := by
  unfold isCancelled
  rw [has_eq, has_eq, view_detach (fun _ _ => rfl) (fun _ _ => rfl) (fun _ _ => rfl)]

theorem isCancelled_clear (f : Forest) (id k : Nat) : (f.clear id).1.isCancelled k = f.isCancelled k := by
  unfold isCancelled
  rw [has_eq, has_eq, view_clear (fun _ _ => rfl) (fun _ _ => rfl) (fun _ _ => rfl)]

theorem isCancelled_create (f : Forest) (parent k : Nat) :
    (f.create parent).1.isCancelled k = if k = f.size then f.isCancelled parent else f.isCancelled k := by
  unfold isCancelled
  rw [has_eq, view_create (fun _ _ => rfl) (fun _ _ => rfl)]
  split
  · rfl
  · exact (has_eq f _ k).symm

theorem isCancelled_of_size_le {f : Forest} {k : Nat} (h : f.size ≤ k) : f.isCancelled k = false := by
  unfold isCancelled has node?
  rw [Array.getElem?_eq_none h]
  rfl

end Forest

namespace Tree

theorem forest_publish (t : Tree) (events : List Event) : (t.publish events).forest = t.forest := by
  unfold publish
  split <;> rfl

/-- **A tree changes its forest by the operation and by nothing else.** -/
theorem forest_change (t : Tree) (op : Forest → Forest × List Event) : (t.change op).forest = (op t.forest).1 := by
  unfold change
  simp only
  split
  · exact forest_publish _ _
  · exact forest_publish _ _

end Tree

end Remedy.Context
