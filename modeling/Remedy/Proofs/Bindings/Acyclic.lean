import Mathlib.Data.Finset.Card
import Mathlib.Data.Finset.Range
import Remedy.Proofs.Bindings.Meaning
import Remedy.Proofs.Bindings.Reach
/-!
# Proofs.Bindings.Acyclic — bindings in which no variable leads back to itself

Unification does not look for a variable in the term that it binds it to, so a slot may come to lead to itself.  Where
none does (`Acyclic`), every term leads through the bound slots in finitely many rounds, fewer and fewer being left on
the way (`depth_lt`).  So `resolve`, which makes one round more than there are slots, replaces every bound variable by
what its term resolves to (`Acyclic.resolve_var`), and resolving a term that has been followed, or resolved when there
were fewer bindings, gives the same as resolving it at once (`resolve_walk`, `resolve_resolve`).
-/
namespace Remedy

namespace Term

mutual

theorem bind_bind (f g : String → Nat → Term) : ∀ t : Term,
    (t.bind f).bind g = t.bind fun name slot => (f name slot).bind g
  | .const _ | .var _ _ | .template _ | .nil => rfl
  | .compound functor args => congrArg (Term.compound functor) (bindArgs_bindArgs f g args)

theorem bindArgs_bindArgs (f g : String → Nat → Term) : ∀ args : List (Arg Term),
    bindArgs g (bindArgs f args) = bindArgs (fun name slot => (f name slot).bind g) args
  | [] => rfl
  | a :: rest => by rw [bindArgs, bindArgs, bindArgs, bind_bind f g a.value, bindArgs_bindArgs f g rest]

end

theorem bindArgs_eq_map (f : String → Nat → Term) : ∀ args : List (Arg Term),
    bindArgs f args = args.map fun a => ⟨a.name, a.value.bind f⟩
  | [] => rfl
  | a :: rest => by rw [bindArgs, bindArgs_eq_map f rest, List.map_cons]

end Term

namespace Bindings

variable {b c : Bindings} {t u : Term} {v : String × Nat} {i j : Nat} {name : String}

/-- **No slot leads back to itself** by the terms that slots hold. -/
def Acyclic (b : Bindings) : Prop := ∀ i t, b.lookup? i = some t → ¬b.Reaches [t] i

theorem Reaches.through (hi : b.Reaches [t] i) (hu : b.lookup? i = some u) (hj : b.Reaches [u] j) : b.Reaches [t] j :=
  hj.least (b.closed_reaches [t]) (List.forall_mem_singleton.2 (b.closed_reaches [t] _ _ hi hu))

theorem Extends.reaches (h : Extends b c) {ts : List Term} (hi : b.Reaches ts i) : c.Reaches ts i := by
  induction hi with
  | start ht hv => exact .start ht hv
  | next _ hu hv ih => exact .next ih (h.lookup?_eq hu) hv

theorem Acyclic.of_extends (hc : c.Acyclic) (h : Extends b c) : b.Acyclic :=
  fun i t hi hr => hc i t (h.lookup?_eq hi) (h.reaches hr)

/-- **Bindings are acyclic if they lead from higher to lower ranks only.** -/
theorem acyclic_of_rank {α : Type} [Preorder α] (rank : Nat → α)
    (h : ∀ i t, b.lookup? i = some t → ∀ v ∈ t.mentions, rank v.2 < rank i) : b.Acyclic := by
  intro i t hi hr
  have hlower : ∀ j, b.Reaches [t] j → rank j < rank i := by
    intro j hj
    induction hj with
    | start ht hv =>
      obtain rfl := List.mem_singleton.1 ht
      exact h i _ hi _ hv
    | next _ hu hv ih => exact lt_trans (h _ _ hu _ hv) ih
  exact lt_irrefl _ (hlower i hr)

theorem acyclic_of_slots (rank : Nat → Nat)
    (h : ∀ i < b.size, ∀ v ∈ ((b.lookup? i).map Term.mentions).getD [], rank v.2 < rank i) : b.Acyclic :=
  acyclic_of_rank rank fun i t hi v hv => h i (lt_size_of_lookup? hi) v (by rwa [hi])

/-! ## How deep a term is -/

open Classical in
noncomputable def reached (b : Bindings) (t : Term) : Finset Nat :=
  (Finset.range b.size).filter fun i => b.lookup? i ≠ none ∧ b.Reaches [t] i

theorem mem_reached : i ∈ b.reached t ↔ b.lookup? i ≠ none ∧ b.Reaches [t] i := by
  classical
  unfold reached
  rw [Finset.mem_filter, Finset.mem_range, and_iff_right_iff_imp]
  rintro ⟨hne, -⟩
  obtain ⟨u, hu⟩ := Option.ne_none_iff_exists'.1 hne
  exact lt_size_of_lookup? hu

/-- How many bound slots a term reaches. -/
noncomputable def depth (b : Bindings) (t : Term) : Nat := (b.reached t).card

theorem depth_le_size (b : Bindings) (t : Term) : b.depth t ≤ b.size := by
  classical
  exact (Finset.card_filter_le _ _).trans (Finset.card_range b.size).le

/-- **What a variable of a term is bound to is less deep than the term.** -/
theorem Acyclic.depth_lt (h : b.Acyclic) (hv : v ∈ t.mentions) (hu : b.lookup? v.2 = some u) :
    b.depth u < b.depth t := by
  have hstart : b.Reaches [t] v.2 := .start List.mem_cons_self hv
  -- what the slot holds reaches no more than the term does, and not the slot itself
  refine Finset.card_lt_card ⟨fun i hi => ?_, fun hsub => ?_⟩
  · obtain ⟨hne, hr⟩ := mem_reached.1 hi
    exact mem_reached.2 ⟨hne, hstart.through hu hr⟩
  · have hmem : v.2 ∈ b.reached t := mem_reached.2 ⟨by rw [hu]; exact Option.some_ne_none u, hstart⟩
    exact h _ _ hu (mem_reached.1 (hsub hmem)).2

/-- **Induction along the bindings**: what holds of a term whenever it holds of all that its variables are bound to. -/
theorem Acyclic.induction (h : b.Acyclic) {P : Term → Prop}
    (step : ∀ t, (∀ v ∈ t.mentions, ∀ u, b.lookup? v.2 = some u → P u) → P t) (t : Term) : P t := by
  generalize hn : b.depth t = n
  induction n using Nat.strongRecOn generalizing t with
  | ind n ih =>
    subst hn
    exact step t fun v hv u hu => ih _ (h.depth_lt hv hu) u rfl

/-! ## Resolving -/

/-- **No more rounds are needed than a term is deep.** -/
theorem Acyclic.resolveFor_eq (h : b.Acyclic) : ∀ {n m : Nat} {t : Term}, b.depth t ≤ n → b.depth t ≤ m →
    b.resolveFor n t = b.resolveFor m t := by
  -- a term without bound variables is as it is, however many rounds are made
  have hshallow : ∀ {t : Term}, b.depth t ≤ 0 → ∀ m, b.resolveFor m t = t := by
    intro t ht m
    have hfree : ∀ v ∈ t.mentions, b.lookup? v.2 = none := by
      intro v hv
      cases hu : b.lookup? v.2 with
      | none => rfl
      | some u => exact absurd (h.depth_lt hv hu) (by omega)
    cases m with
    | zero => rfl
    | succ m =>
      rw [Bindings.resolveFor_eq]
      refine (Term.bind_congr fun v hv => ?_).trans (Term.bind_var t)
      exact resolveFor_free b _ _ (hfree v hv)
  intro n
  induction n with
  | zero =>
    intro m t hn _
    rw [hshallow hn, hshallow hn]
  | succ n ih =>
    intro m t hn hm
    cases m with
    | zero => rw [hshallow hm, hshallow hm]
    | succ m =>
      rw [Bindings.resolveFor_eq b n, Bindings.resolveFor_eq b m]
      refine Term.bind_congr fun v hv => ?_
      cases hu : b.lookup? v.2 with
      | none => rw [resolveFor_free b _ _ hu, resolveFor_free b _ _ hu]
      | some u =>
        have hlt := h.depth_lt hv hu
        rw [resolveFor_var b n _ hu, resolveFor_var b m _ hu]
        exact ih (by omega) (by omega)

theorem resolve_free (hi : b.lookup? i = none) : b.resolve (.var name i) = .var name i := resolveFor_free b _ name hi

/-- **A term is resolved by resolving its variables.** -/
theorem resolve_bind (b : Bindings) (t : Term) : b.resolve t = t.bind fun name i => b.resolve (.var name i) :=
  Bindings.resolveFor_eq b b.size t

theorem resolve_compound (b : Bindings) (f : String) (args : List (Arg Term)) :
    b.resolve (.compound f args) = .compound f (args.map fun a => ⟨a.name, b.resolve a.value⟩) := by
  rw [resolve_bind, Term.bind, Term.bindArgs_eq_map]
  congr 1
  refine List.map_congr_left fun a _ => ?_
  rw [resolve_bind b a.value]

/-- **A bound variable is resolved by resolving its term.** -/
theorem Acyclic.resolve_var (h : b.Acyclic) (name : String) (hi : b.lookup? i = some u) :
    b.resolve (.var name i) = b.resolve u := by
  have hdepth := depth_le_size b u
  unfold resolve
  rw [← size, resolveFor_var b b.size name hi]
  exact h.resolveFor_eq hdepth (by omega)

theorem Acyclic.resolve_walkFor (h : c.Acyclic) (hbc : Extends b c) : ∀ (n : Nat) (t : Term),
    c.resolve (b.walkFor n t) = c.resolve t
  | 0, _ => rfl
  | n + 1, .var name i => by
    unfold walkFor
    split
    · rename_i u hu
      rw [h.resolve_walkFor hbc n u, h.resolve_var name (hbc.lookup?_eq hu)]
    · rfl
  | _ + 1, .const _ | _ + 1, .compound _ _ | _ + 1, .template _ | _ + 1, .nil => rfl

/-- **What a term stands for is what it stands for when it has been followed**, also under fewer bindings. -/
theorem Acyclic.resolve_walk (h : c.Acyclic) (hbc : Extends b c) (t : Term) : c.resolve (b.walk t) = c.resolve t :=
  h.resolve_walkFor hbc _ t

/-- **Resolving a term twice**, the first time under fewer bindings, is resolving it once. -/
theorem Acyclic.resolve_resolve (h : c.Acyclic) (hbc : Extends b c) (t : Term) :
    c.resolve (b.resolve t) = c.resolve t := by
  refine (h.of_extends hbc).induction (P := fun t => c.resolve (b.resolve t) = c.resolve t) (fun t ih => ?_) t
  rw [resolve_bind b t, resolve_bind c, Term.bind_bind, resolve_bind c t]
  refine Term.bind_congr fun v hv => ?_
  rw [← resolve_bind c]
  cases hu : b.lookup? v.2 with
  | none => rw [resolve_free hu]
  | some u =>
    rw [(h.of_extends hbc).resolve_var _ hu, ih v hv u hu, h.resolve_var _ (hbc.lookup?_eq hu)]

end Bindings

end Remedy
