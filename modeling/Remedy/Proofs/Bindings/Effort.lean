import Mathlib
import Remedy.Proofs.Bindings.Acyclic
import Remedy.Proofs.Bindings.Steps
import Remedy.Proofs.Term.Variables
/-!
# Proofs.Bindings.Effort — how many steps unification takes

A step takes at least one part away from the right-hand sides, each of them written out under the bindings that
unification comes to in the end (`Step.costs_lt`).  If these are acyclic the right-hand sides are finite terms under
them, and their size is known beforehand: a term is at most so many times larger in a round as the largest term that a
slot holds (`size_resolveFor_le`).  So unification is given up only when a variable has come to lead back to itself
(`exists_steps_of_acyclic`).
-/
namespace Remedy

namespace Term

theorem size_pos (t : Term) : 0 < t.size := by
  cases t with
  | compound f args => exact Nat.succ_pos _
  | const | var | template | nil => exact Nat.one_pos

theorem sizeOfArgs_eq_sum (args : List (Arg Term)) : sizeOfArgs args = (args.map fun a => a.value.size).sum := by
  induction args with
  | nil => rfl
  | cons a rest ih => rw [sizeOfArgs, ih, List.map_cons, List.sum_cons]

theorem size_compound (f : String) (args : List (Arg Term)) :
    (compound f args).size = (args.map fun a => a.value.size).sum + 1 := by
  rw [size, sizeOfArgs_eq_sum]

theorem size_arg_le {a : Arg Term} {args : List (Arg Term)} (f : String) (ha : a ∈ args) :
    a.value.size ≤ (compound f args).size := by
  rw [size_compound]
  exact Nat.le_succ_of_le (List.le_sum_of_mem (List.mem_map_of_mem ha))

mutual

/-- Replacing variables makes a term at most so many times larger as the largest of what replaces them. -/
theorem size_bind_le {f : String → Nat → Term} {k : Nat} (hk : 0 < k) (hf : ∀ name i, (f name i).size ≤ k) :
    ∀ t : Term, (t.bind f).size ≤ t.size * k
  | .const _ | .template _ | .nil => by
    rw [bind, size]
    omega
  | .var name i => by
    rw [bind, size, Nat.one_mul]
    exact hf name i
  | .compound functor args => by
    have hargs := sizeOfArgs_bindArgs_le hk hf args
    rw [bind, size, size, Nat.add_mul]
    omega

theorem sizeOfArgs_bindArgs_le {f : String → Nat → Term} {k : Nat} (hk : 0 < k) (hf : ∀ name i, (f name i).size ≤ k) :
    ∀ args : List (Arg Term), sizeOfArgs (bindArgs f args) ≤ sizeOfArgs args * k
  | [] => Nat.zero_le _
  | a :: rest => by
    have ha := size_bind_le hk hf a.value
    have hrest := sizeOfArgs_bindArgs_le hk hf rest
    rw [bindArgs, sizeOfArgs, sizeOfArgs, Nat.add_mul]
    exact Nat.add_le_add ha hrest

end

end Term

namespace Bindings

variable {b c d : Bindings} {s t u : Term} {es fs gs more : List Equation} {i k m n : Nat}

theorem size_resolveFor_le (hk : 0 < k) (hheld : ∀ i u, b.lookup? i = some u → u.size ≤ k) : ∀ (n : Nat) (t : Term),
    (b.resolveFor n t).size ≤ t.size * k ^ n
  | 0, t => by simp [resolveFor]
  | n + 1, t => by
    rw [resolveFor_eq]
    refine Term.size_bind_le (Nat.pow_pos hk) (fun name i => ?_) t
    cases hu : b.lookup? i with
    | none =>
      rw [resolveFor_free b _ _ hu]
      exact Nat.pow_pos hk
    | some u =>
      rw [resolveFor_var b n name hu, Nat.pow_succ']
      exact (size_resolveFor_le hk hheld n u).trans (Nat.mul_le_mul_right _ (hheld i u hu))

/-! ## What a step takes away -/

/-- The size of the right-hand side of an equation, written out under some bindings. -/
def Equation.cost (d : Bindings) : Equation → Nat
  | .pair _ t => (d.resolve t).size
  | .clash => 0

def costs (d : Bindings) (es : List Equation) : Nat := (es.map (Equation.cost d)).sum

theorem costs_append (d : Bindings) (es fs : List Equation) : costs d (es ++ fs) = costs d es + costs d fs := by
  simp [costs]

theorem costs_cons (d : Bindings) (e : Equation) (es : List Equation) : costs d (e :: es) = e.cost d + costs d es := by
  simp [costs]

theorem costs_namedEquations_le (d : Bindings) (goal : Call) : ∀ (i : Nat) (args : List (Arg Term)),
    costs d (namedEquations goal i args) ≤ (args.map fun a => (d.resolve a.value).size).sum
  | _, [] => Nat.le_refl 0
  | i, a :: rest => by
    have hrest := costs_namedEquations_le d goal (i + 1) rest
    unfold namedEquations
    split
    · simpa [costs_cons, Equation.cost] using hrest
    · exact Nat.zero_le _

theorem costs_zipWith_le (d : Bindings) : ∀ as bs : List (Arg Term),
    costs d (List.zipWith (fun a b => .pair a.value b.value) as bs) ≤ (bs.map fun a => (d.resolve a.value).size).sum
  | [], _ => Nat.zero_le _
  | _ :: _, [] => Nat.le_refl 0
  | a :: as, b :: bs => by
    have hrest := costs_zipWith_le d as bs
    simpa [costs_cons, Equation.cost] using hrest

theorem costs_callEquations_le (d : Bindings) (goal head : Call) :
    costs d (callEquations goal head) ≤ (head.args.map fun a => (d.resolve a.value).size).sum := by
  unfold callEquations
  split
  · exact Nat.zero_le _
  · split
    · exact costs_namedEquations_le d goal 0 head.args
    · split
      · exact Nat.zero_le _
      · exact costs_zipWith_le d goal.args head.args

theorem Meets.costs_lt (h : Meets b s t c more) (d : Bindings) : costs d more < (d.resolve t).size := by
  cases h with
  | compounds f g as bs =>
    have hle := costs_callEquations_le d ⟨f, as⟩ ⟨g, bs⟩
    rw [resolve_compound, Term.size_compound, List.map_map]
    exact Nat.lt_succ_of_le hle
  | same | left | right | consts | nils => exact Term.size_pos _

/-- **A step takes something away** from what is to be unified, if no variable leads back to itself in the end. -/
theorem Step.costs_lt (hb : b.Sound) (h : Step b es c fs) (hcd : Extends c d) (hd : d.Acyclic) :
    costs d fs < costs d es := by
  obtain ⟨s, t, more, rest, rfl, rfl, hmeets⟩ := h.exists_meets hb
  have hlt := hmeets.costs_lt d
  rw [hd.resolve_walk (hmeets.extends.trans hcd) t] at hlt
  rw [costs_append, costs_cons]
  exact Nat.add_lt_add_right hlt _

theorem Steps.costs_le (hb : b.Sound) (h : Steps n b es c fs) (hcd : Extends c d) (hd : d.Acyclic) :
    costs d fs + n ≤ costs d es := by
  induction h with
  | refl => exact Nat.le_refl _
  | cons hstep hrest ih =>
    have hc := Extends.trans hb (hstep.extends hb)
    have hlt := hstep.costs_lt hb ((hrest.extends hc).trans hcd) hd
    have hle := ih hc hcd
    omega

/-! ## What is enough -/

theorem foldl_add (f : α → Nat) : ∀ (l : List α) (n : Nat), l.foldl (fun n a => n + f a) n = n + (l.map f).sum
  | [], _ => rfl
  | a :: l, n => by rw [List.foldl_cons, foldl_add f l, List.map_cons, List.sum_cons, Nat.add_assoc]

theorem le_foldl_max (f : α → Nat) : ∀ (l : List α) (n : Nat), n ≤ l.foldl (fun n a => max n (f a)) n ∧
    ∀ a ∈ l, f a ≤ l.foldl (fun n a => max n (f a)) n
  | [], n => ⟨Nat.le_refl n, fun _ h => nomatch h⟩
  | a :: l, n => by
    obtain ⟨hstart, hrest⟩ := le_foldl_max f l (max n (f a))
    exact ⟨(Nat.le_max_left _ _).trans hstart, List.forall_mem_cons.2 ⟨(Nat.le_max_right _ _).trans hstart, hrest⟩⟩

theorem mem_slots_of_lookup? (h : b.lookup? i = some t) : some t ∈ b.slots.toList := by
  unfold lookup? at h
  cases hi : b.slots[i]? with
  | none =>
    rw [hi] at h
    cases h
  | some o =>
    rw [hi] at h
    obtain rfl : o = some t := h
    exact Array.mem_toList_iff.2 (Array.mem_of_getElem? hi)

theorem size_le_weight (h : b.lookup? i = some t) : t.size ≤ b.weight := by
  unfold weight
  rw [← Array.foldl_toList, foldl_add, Nat.zero_add]
  exact List.le_sum_of_mem
    (List.mem_map_of_mem (f := fun o : Option Term => (o.map Term.size).getD 0) (mem_slots_of_lookup? h))

def bulk (b : Bindings) (es : List Equation) : Nat := es.foldl (fun n e => n + e.size) (b.weight + 2)

theorem bulk_eq (b : Bindings) (es : List Equation) : b.bulk es = b.weight + 2 + (es.map Equation.size).sum :=
  foldl_add Equation.size es _

def Bounded (k n : Nat) (t : Term) : Prop := t.size ≤ k ∧ t.span ≤ n

theorem shut_bounded (b : Bindings) (es : List Equation) : Shut (Bounded (b.bulk es) (b.breadth es)) b where
  args f args h a ha := by
    refine ⟨(Term.size_arg_le f ha).trans h.1, Term.span_le_iff.2 fun v hv => ?_⟩
    exact Term.span_le_iff.1 h.2 v (Term.mem_mentionsOf.2 ⟨a, ha, hv⟩)
  held name i t _ ht := by
    refine ⟨?_, ?_⟩
    · have hle := size_le_weight ht
      rw [bulk_eq]
      omega
    · unfold breadth
      rw [← Array.foldl_toList]
      have hle := (le_foldl_max (fun o : Option Term => (o.map Term.span).getD 0) b.slots.toList b.slots.size).2
        (some t) (mem_slots_of_lookup? ht)
      exact hle.trans (le_foldl_max Equation.span es _).1

theorem both_bounded (b : Bindings) {es : List Equation} : ∀ e ∈ es, e.Both (Bounded (b.bulk es) (b.breadth es)) := by
  intro e he
  have hsize : e.size ≤ (es.map Equation.size).sum :=
    List.le_sum_of_mem (List.mem_map_of_mem he)
  have hspan : e.span ≤ b.breadth es := (le_foldl_max Equation.span es _).2 e he
  have hbulk := bulk_eq b es
  cases e with
  | clash => trivial
  | pair s t =>
    have hboth : (Equation.pair s t).size = s.size + t.size := rfl
    obtain ⟨hs, ht⟩ := Nat.max_le.1 hspan
    exact ⟨⟨by omega, hs⟩, ⟨by omega, ht⟩⟩

theorem size_le_breadth (b : Bindings) (es : List Equation) : b.size ≤ b.breadth es := by
  unfold breadth
  rw [← Array.foldl_toList]
  exact (le_foldl_max _ _ _).1.trans (le_foldl_max Equation.span es _).1

theorem costs_le_of_size (hk : ∀ t, (d.resolve t).size ≤ t.size * k) : ∀ es : List Equation,
    costs d es ≤ (es.map Equation.size).sum * k
  | [] => Nat.zero_le _
  | .clash :: es => by
    have hrest := costs_le_of_size hk es
    rw [costs_cons, List.map_cons, List.sum_cons, Nat.add_mul]
    exact Nat.add_le_add (Nat.zero_le _) hrest
  | .pair s t :: es => by
    have hrest := costs_le_of_size hk es
    rw [costs_cons, List.map_cons, List.sum_cons, Nat.add_mul]
    refine Nat.add_le_add ((hk t).trans (Nat.mul_le_mul_right k ?_)) hrest
    exact Nat.le_add_left t.size s.size

/-- **All that is to be unified costs less than what is enough**, written out under the bindings it leads to. -/
theorem Steps.costs_lt_enough (hb : b.Sound) (h : Steps n b es c fs) : costs c es < b.enough es := by
  have hshut := (h.shut hb (shut_bounded b es) (both_bounded b)).1
  have hsize : c.size ≤ b.breadth es := h.size_le hb (shut_bounded b es) (both_bounded b)
    (fun name i hi => Term.span_le_iff.1 hi.2 (name, i) List.mem_cons_self) (size_le_breadth b es)
  have hbulk := bulk_eq b es
  have hpos : 0 < b.bulk es := by omega
  have hheld : ∀ i u, c.lookup? i = some u → u.size ≤ b.bulk es := fun i u hi =>
    (hshut.held "" i u ⟨hpos, (lt_size_of_lookup? hi).trans_le hsize⟩ hi).1
  have hresolve : ∀ t, (c.resolve t).size ≤ t.size * b.bulk es ^ (b.breadth es + 1) := fun t =>
    (size_resolveFor_le hpos hheld _ t).trans
      (Nat.mul_le_mul_left _ (Nat.pow_le_pow_right hpos (Nat.succ_le_succ hsize)))
  calc costs c es ≤ (es.map Equation.size).sum * b.bulk es ^ (b.breadth es + 1) := costs_le_of_size hresolve es
    _ < b.bulk es * b.bulk es ^ (b.breadth es + 1) := Nat.mul_lt_mul_of_pos_right (by omega) (Nat.pow_pos hpos)
    _ = b.enough es := (Nat.pow_succ' ..).symm

/-- **Unification of acyclic bindings is never given up**: it ends with all equations unified or with one that fails. -/
theorem exists_steps_of_acyclic (hb : b.Sound) (hd : (b.unifyAll es).1.Acyclic) :
    ∃ n fs, Steps n b es (b.unifyAll es).1 fs ∧
      if (b.unifyAll es).2 = true then fs = [] else Fails (b.unifyAll es).1 fs := by
  obtain ⟨n, fs, hsteps, hend⟩ := exists_steps_unifyAll b es
  refine ⟨n, fs, hsteps, ?_⟩
  split
  · rename_i htrue
    rwa [if_pos htrue] at hend
  · rename_i hfalse
    rw [if_neg hfalse] at hend
    refine hend.resolve_right ?_
    rintro ⟨c, gs, m, hfirst, hsecond⟩
    have hc := Extends.trans hb (hfirst.extends hb)
    have hle := hsecond.costs_le hc .refl hd
    have hlt := hsecond.costs_lt_enough hc
    omega

end Bindings

end Remedy
