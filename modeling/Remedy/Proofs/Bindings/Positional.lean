import Remedy.Proofs.Bindings.Effort
/-!
# Proofs.Bindings.Positional — terms whose arguments have no names

Compound terms without names are unified argument by argument, if their functors and the numbers of their arguments are
the same (`callEquations_unnamed`).  What the slots of some terms lead to is as it may be; that it is without names as
well has to be said (`shut_unnamed`), and then unification meets no names at all.
-/
namespace Remedy

namespace Term

mutual

/-- No argument has a name, and all that is not a compound term passes a test. -/
def isUnnamed (leaf : Term → Bool) : Term → Bool
  | .compound _ args => areUnnamed leaf args
  | t => leaf t

def areUnnamed (leaf : Term → Bool) : List (Arg Term) → Bool
  | [] => true
  | a :: rest => a.name.isNone && isUnnamed leaf a.value && areUnnamed leaf rest

end

/-- **Arguments stand at positions only.** -/
def isPositional (t : Term) : Bool := t.isUnnamed fun _ => true

/-- **The term is made of variables, constants, ends of lists and compound terms with positional arguments.**  A
constant counts if it is equal to itself, as all but NaN are. -/
def isRegular (t : Term) : Bool := t.isUnnamed fun
  | .const v => v == v
  | .template _ => false
  | _ => true

variable {leaf : Term → Bool} {f : String}

theorem areUnnamed_iff (args : List (Arg Term)) :
    areUnnamed leaf args = true ↔ ∀ a ∈ args, a.name = none ∧ a.value.isUnnamed leaf = true := by
  induction args with
  | nil => simp [areUnnamed]
  | cons a rest ih => simp [areUnnamed, ih]

theorem isUnnamed_compound {args : List (Arg Term)} :
    (compound f args).isUnnamed leaf = true ↔ ∀ a ∈ args, a.name = none ∧ a.value.isUnnamed leaf = true := by
  rw [isUnnamed]
  exact areUnnamed_iff args

end Term

namespace Bindings

variable {b : Bindings} {leaf : Term → Bool} {f g : String} {as bs : List (Arg Term)}

/-- **Bindings that have come about** by making slots and unifying terms. -/
inductive Made : Bindings → Prop
  | empty : Made empty
  | allocate {b : Bindings} (h : Made b) (n : Nat) : Made (b.allocate n).2
  | unify {b : Bindings} (h : Made b) (s t : Term) : Made (b.unify s t).1

theorem Made.sound (h : Made b) : b.Sound := by
  induction h with
  | empty => exact .refl
  | allocate _ n ih => exact Extends.allocate ih n
  | unify _ s t ih => exact Extends.trans ih (extends_unify ih s t)

theorem held_of_all {p : Term → Bool} (h : b.slots.toList.all (Option.all p) = true) {i : Nat} {t : Term}
    (hi : b.lookup? i = some t) : p t = true :=
  List.all_eq_true.1 h (some t) (mem_slots_of_lookup? hi)

/-- **Without names the arguments pair up by position**, or there is a clash. -/
theorem callEquations_unnamed (has : ∀ a ∈ as, a.name = none) (hbs : ∀ a ∈ bs, a.name = none) :
    callEquations ⟨f, as⟩ ⟨g, bs⟩ = if f = g ∧ as.length = bs.length
      then List.zipWith (fun a b => .pair a.value b.value) as bs else [.clash] := by
  have hnames : ∀ {f : String} {args : List (Arg Term)}, (∀ a ∈ args, a.name = none) →
      (⟨f, args⟩ : Call).hasNames = false := by
    intro f args hargs
    unfold Call.hasNames
    rw [List.any_eq_false]
    intro a ha
    rw [hargs a ha]
    exact Bool.false_ne_true
  unfold callEquations
  rw [hnames has, hnames hbs]
  by_cases hf : f = g
  · by_cases hl : as.length = bs.length
    · simp [hf, hl, Call.arity]
    · simp [hf, hl, Call.arity]
  · simp [hf]

/-- **Terms without names are a closed kind** among those that some terms lead to, if all that is held there is. -/
theorem shut_unnamed {ts : List Term}
    (h : ∀ i t, b.Reaches ts i → b.lookup? i = some t → t.isUnnamed leaf = true) :
    Shut (fun t => t.isUnnamed leaf = true ∧ t.Inside (b.Reaches ts)) b where
  args f args ht a ha :=
    ⟨(Term.isUnnamed_compound.1 ht.1 a ha).2, fun v hv => ht.2 v (Term.mem_mentionsOf.2 ⟨a, ha, hv⟩)⟩
  held name i t ht hi := by
    have hr : b.Reaches ts i := ht.2 (name, i) List.mem_cons_self
    exact ⟨h i t hr hi, b.closed_reaches ts i t hr hi⟩

theorem both_unnamed {s t : Term} (hs : s.isUnnamed leaf = true) (ht : t.isUnnamed leaf = true) :
    ∀ e ∈ [Equation.pair s t], e.Both fun u => u.isUnnamed leaf = true ∧ u.Inside (b.Reaches [s, t]) := by
  intro e he
  rcases List.mem_singleton.1 he with rfl
  exact ⟨⟨hs, fun _ hv => .start List.mem_cons_self hv⟩, ht, fun _ hv => .start (by simp) hv⟩

end Bindings

end Remedy
