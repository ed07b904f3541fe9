import Remedy.Proofs.Bindings.Equations
import Remedy.Proofs.Bindings.Inside
/-!
# Proofs.Bindings.Reach — what the variables of some terms lead to

A term reaches the slots of its variables and, by what these slots hold, further slots (`Reaches`).  These are a closed
kind of slots.  Bindings made in slots of a closed kind touch no others (`Binds.touches`): all that has been bound
stays bound to the same, and what is new is in slots of that kind, and mentions no others.  An unbound slot of another
kind stays a variable of its own: it stands for nothing, and the terms that stand for it are those that did before
(`Binds.walk_eq_var_iff`).  A term that reaches slots of other kinds only stands for the same term as before
(`Binds.resolveFor_eq`).
-/
namespace Remedy

namespace Term

mutual

theorem bind_congr {f g : String → Nat → Term} : ∀ {t : Term}, (∀ v ∈ t.mentions, f v.1 v.2 = g v.1 v.2) →
    t.bind f = t.bind g
  | .const _, _ | .template _, _ | .nil, _ => rfl
  | .var name slot, h => h (name, slot) List.mem_cons_self
  | .compound functor args, h => by
    rw [bind, bind, bindArgs_congr h]

theorem bindArgs_congr {f g : String → Nat → Term} : ∀ {args : List (Arg Term)},
    (∀ v ∈ mentionsOf args, f v.1 v.2 = g v.1 v.2) → bindArgs f args = bindArgs g args
  | [], _ => rfl
  | a :: rest, h => by
    obtain ⟨ha, hrest⟩ := List.forall_mem_append.1 h
    rw [bindArgs, bindArgs, bind_congr ha, bindArgs_congr hrest]

end

end Term

namespace Bindings

variable {Q : Nat → Prop} {b c : Bindings} {ts : List Term}

/-- **The slots that some terms reach.** -/
inductive Reaches (b : Bindings) (ts : List Term) : Nat → Prop
  | start {t : Term} {v : String × Nat} (ht : t ∈ ts) (hv : v ∈ t.mentions) : Reaches b ts v.2
  | next {i : Nat} {t : Term} {v : String × Nat} (h : Reaches b ts i) (hi : b.lookup? i = some t) (hv : v ∈ t.mentions) :
    Reaches b ts v.2

theorem closed_reaches (b : Bindings) (ts : List Term) : b.Closed (b.Reaches ts) := fun _ _ h hi _ hv => .next h hi hv

/-- **The slots that terms reach are of any closed kind** of which the variables of the terms are. -/
theorem Reaches.least (hQ : b.Closed Q) (hts : ∀ t ∈ ts, t.Inside Q) {i : Nat} (h : b.Reaches ts i) : Q i := by
  induction h with
  | start ht hv => exact hts _ ht _ hv
  | next _ hi hv ih => exact hQ _ _ ih hi _ hv

/-- **Only slots of a certain kind have been touched**: all that was bound still is, to the same terms, what is new is
in slots of that kind and mentions no others, the terms that stand for any other variable are those that did before,
and a term that reaches other slots only has the value that it had, as far as it is resolved. -/
structure Touches (Q : Nat → Prop) (b c : Bindings) : Prop where
  kept : ∀ i t, b.lookup? i = some t → c.lookup? i = some t
  new : ∀ i t, c.lookup? i = some t → b.lookup? i = some t ∨ Q i ∧ t.Inside Q
  others : ∀ i name, ¬Q i → b.lookup? i = none → ∀ t, c.walk t = .var name i ↔ b.walk t = .var name i
  values : ∀ n t, (∀ i, b.Reaches [t] i → ¬Q i) → c.resolveFor n t = b.resolveFor n t

theorem Extends.exists_walkFor (h : Extends b c) : ∀ (n : Nat) (t : Term), ∃ k, c.walkFor k t = b.walkFor n t
  | 0, _ => ⟨0, rfl⟩
  | n + 1, .var name i => by
    cases hi : b.lookup? i with
    | none =>
      refine ⟨0, ?_⟩
      unfold Bindings.walkFor
      rw [hi]
    | some u =>
      obtain ⟨k, heq⟩ := h.exists_walkFor n u
      refine ⟨k + 1, ?_⟩
      unfold Bindings.walkFor
      rw [hi, h.lookup?_eq hi]
      exact heq
  | _ + 1, .const _ | _ + 1, .compound _ _ | _ + 1, .template _ | _ + 1, .nil => ⟨0, rfl⟩

/-- **Following a term under more bindings** is following it under the earlier ones, and then what has come of it. -/
theorem Extends.walk_walk (h : Extends b c) (hb : b.Sound) (t : Term) : c.walk t = c.walk (b.walk t) := by
  obtain ⟨k, heq⟩ := h.exists_walkFor b.size t
  have hend : c.Ended (c.walkFor c.size t) := Sound.ended_walk (Extends.trans hb h) t
  calc c.walk t = c.walkFor (k + c.size) t := (walkFor_of_le hend (Nat.le_add_left _ _)).symm
    _ = c.walk (c.walkFor k t) := walkFor_add c k c.size t
    _ = c.walk (b.walk t) := congrArg c.walk heq

/-- **Where a term leads to a variable of another kind**, it led there before. -/
theorem Binds.walk_eq_var_iff (h : Binds Q b c) (he : Extends b c) (hb : b.Sound) {i : Nat} (hi : ¬Q i)
    (hfree : b.lookup? i = none) (name : String) (t : Term) : c.walk t = .var name i ↔ b.walk t = .var name i := by
  rw [he.walk_walk hb t]
  refine ⟨fun hw => ?_, fun hw => ?_⟩
  · cases hv : (b.walk t).isVar with
    | false => rwa [walk_of_not_isVar hv] at hw
    | true =>
      obtain ⟨m, j, hu⟩ : ∃ m j, b.walk t = .var m j := by
        cases hu : b.walk t with
        | var m j => exact ⟨m, j, rfl⟩
        | _ => rw [hu] at hv; cases hv
      rw [hu] at hw ⊢
      by_cases hj : Q j
      · -- a variable of the kind never leads out of it
        have hinside : (c.walk (.var m j)).Inside Q := h.keeps.walk fun v hv => by
          rcases List.mem_singleton.1 hv with rfl
          exact hj
        rw [hw] at hinside
        exact absurd (hinside (name, i) List.mem_cons_self) hi
      · rwa [walk_of_free ((h.outside j hj).trans (hb.ended_walk t m j hu))] at hw
  · rw [hw]
    exact walk_of_free ((h.outside i hi).trans hfree)

/-- **A term that reaches no slots of the kind** stands for what it stood for. -/
theorem Binds.resolveFor_eq (h : Binds Q b c) : ∀ (n : Nat) (t : Term), (∀ i, b.Reaches [t] i → ¬Q i) →
    c.resolveFor n t = b.resolveFor n t
  | 0, _, _ => rfl
  | n + 1, t, ht => by
    unfold Bindings.resolveFor
    split
    · rfl
    · refine Term.bind_congr fun v hv => ?_
      have hv : b.Reaches [t] v.2 := .start List.mem_cons_self hv
      rw [h.outside v.2 (ht v.2 hv)]
      split
      · rename_i u hu
        -- what the term of the slot reaches, the slot reaches
        refine h.resolveFor_eq n u fun i hi => ht i (hi.least (b.closed_reaches [t]) ?_)
        exact List.forall_mem_singleton.2 (b.closed_reaches [t] _ _ hv hu)
      · rfl

theorem Binds.touches (h : Binds Q b c) (he : Extends b c) (hb : b.Sound) : Touches Q b c := by
  refine ⟨fun i t hi => he.lookup?_eq hi, fun i t hi => ?_,
    fun i name hi hfree => h.walk_eq_var_iff he hb hi hfree name, h.resolveFor_eq⟩
  by_cases hQ : Q i
  · exact .inr ⟨hQ, h.keeps i t hQ hi⟩
  · exact .inl ((h.outside i hQ).symm.trans hi)

end Bindings

end Remedy
