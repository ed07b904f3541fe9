import Remedy.Proofs.Bindings.Undo
/-!
# Proofs.Bindings.Steps — unification, one step at a time

A step takes up the first equation and puts what it leaves in its place (`Step`); what it can do with two terms that
have been followed to their ends is one of six things (`Meets`).  Unification makes steps until no equation is left, or
until it comes to one that fails (`exists_steps`, `exists_steps_unifyAll`).  So what holds of the bindings and the
equations at first, and is kept by every step, holds wherever it comes to (`Steps.keeps`).
-/
namespace Remedy.Bindings

/-- **One step**: the first equation gives way to those that it leaves. -/
inductive Step (b : Bindings) : List Equation → Bindings → List Equation → Prop
  | pair {s t : Term} {c : Bindings} {more : List Equation} (rest : List Equation)
    (h : b.unifyStep (b.walk s) (b.walk t) = (c, some more)) : Step b (.pair s t :: rest) c (more ++ rest)

inductive Fails (b : Bindings) : List Equation → Prop
  | clash (rest : List Equation) : Fails b (.clash :: rest)
  | pair {s t : Term} {c : Bindings} (rest : List Equation)
    (h : b.unifyStep (b.walk s) (b.walk t) = (c, none)) : Fails b (.pair s t :: rest)

/-- **So many steps**, one after the other. -/
inductive Steps : Nat → Bindings → List Equation → Bindings → List Equation → Prop
  | refl (b : Bindings) (es : List Equation) : Steps 0 b es b es
  | cons {b c d : Bindings} {es fs gs : List Equation} {n : Nat} (h : Step b es c fs) (hrest : Steps n c fs d gs) :
    Steps (n + 1) b es d gs

/-- **What comes of two terms that have been followed to their ends**, unless they fail. -/
inductive Meets (b : Bindings) : Term → Term → Bindings → List Equation → Prop
  | same (name name' : String) (i : Nat) : Meets b (.var name i) (.var name' i) b []
  | left (name : String) {i : Nat} {t : Term} (hi : b.lookup? i = none) (ht : b.Fits i t) :
    Meets b (.var name i) t (b.bind i t) []
  | right (name : String) {j : Nat} {s : Term} (hj : b.lookup? j = none) (hs : s.isVar = false) :
    Meets b s (.var name j) (b.bind j s) []
  | consts {v w : Value} (h : constsAgree v w = true) : Meets b (.const v) (.const w) b []
  | nils : Meets b .nil .nil b []
  | compounds (f g : String) (as bs : List (Arg Term)) :
    Meets b (.compound f as) (.compound g bs) b (callEquations ⟨f, as⟩ ⟨g, bs⟩)

variable {b c d : Bindings} {s t : Term} {es fs gs more rest : List Equation} {k m n : Nat}

theorem Steps.trans (h : Steps m b es c fs) (h' : Steps n c fs d gs) : Steps (m + n) b es d gs := by
  induction h with
  | refl => rwa [Nat.zero_add]
  | cons hstep _ ih =>
    rw [Nat.add_right_comm]
    exact .cons hstep (ih h')

/-- **What every step keeps holds wherever the steps lead.** -/
theorem Steps.keeps {P : Bindings → List Equation → Prop}
    (hstep : ∀ {b es c fs}, Step b es c fs → P b es → P c fs) (h : Steps n b es c fs) (hb : P b es) : P c fs := by
  induction h with
  | refl => exact hb
  | cons hfirst _ ih => exact ih (hstep hfirst hb)

/-! ## How far unification comes -/

/-- Where unification stands: all is unified, an equation has failed, or some are left. -/
def Progress.Is (b : Bindings) (es : List Equation) : Progress → Prop
  | .done true => es = []
  | .done false => Fails b es
  | .left fs => fs = es

theorem eq_of_unifyStep_none (h : b.unifyStep s t = (c, none)) : c = b := by
  unfold unifyStep at h
  split at h
  · split at h <;> cases h
  · cases h
  · cases h
  · exact (Prod.mk.inj h).1.symm
  · cases h
  · cases h
  · exact (Prod.mk.inj h).1.symm

theorem exists_steps : ∀ (n : Nat) (b : Bindings) (es : List Equation), ∃ k fs,
    Steps k b es (unifyFor n b es).1 fs ∧ (unifyFor n b es).2.Is (unifyFor n b es).1 fs ∧
      ((∃ gs, (unifyFor n b es).2 = .left gs) → k = n)
  | 0, b, [] => ⟨0, [], .refl _ _, rfl, fun _ => rfl⟩
  | n + 1, b, [] => ⟨0, [], .refl _ _, rfl, fun ⟨_, h⟩ => by cases h⟩
  | 0, b, e :: es => ⟨0, e :: es, .refl _ _, rfl, fun _ => rfl⟩
  | n + 1, b, .clash :: es => ⟨0, _, .refl _ _, .clash es, fun ⟨_, h⟩ => by cases h⟩
  | n + 1, b, .pair s t :: rest => by
    unfold unifyFor
    split
    · rename_i c more hstep
      obtain ⟨k, fs, hsteps, his, hleft⟩ := exists_steps n c (more ++ rest)
      exact ⟨k + 1, fs, .cons (.pair rest hstep) hsteps, his, fun h => congrArg (· + 1) (hleft h)⟩
    · rename_i c hstep
      obtain rfl := eq_of_unifyStep_none hstep
      exact ⟨0, _, .refl _ _, .pair rest hstep, fun ⟨_, h⟩ => by cases h⟩

/-- **How the unification of equations ends**: with all of them unified or with one that fails, or it is given up after
more steps than `enough` allows at a moment on the way. -/
theorem exists_steps_unifyAll (b : Bindings) (es : List Equation) : ∃ n fs, Steps n b es (b.unifyAll es).1 fs ∧
    (if (b.unifyAll es).2 = true then fs = [] else Fails (b.unifyAll es).1 fs ∨
      ∃ c gs m, Steps m b es c gs ∧ Steps (c.enough gs) c gs (b.unifyAll es).1 fs) := by
  obtain ⟨m, gs, hfirst, his, -⟩ := exists_steps usual b es
  unfold unifyAll
  split
  · rename_i c success heq
    rw [heq] at hfirst his
    refine ⟨m, gs, hfirst, ?_⟩
    cases success with
    | true => exact his
    | false => exact .inl his
  · rename_i c left heq
    rw [heq] at hfirst his
    obtain rfl := his
    -- more steps were needed than usual: they go on from there
    obtain ⟨k, fs, hsecond, his', hleft⟩ := exists_steps (c.enough left) c left
    have hsteps := hfirst.trans hsecond
    split
    · rename_i d success heq'
      rw [heq'] at hsteps his'
      refine ⟨m + k, fs, hsteps, ?_⟩
      cases success with
      | true => exact his'
      | false => exact .inl his'
    · rename_i d left' heq'
      rw [heq'] at hsteps hsecond hleft
      obtain rfl := hleft ⟨left', rfl⟩
      exact ⟨m + c.enough left, fs, hsteps, .inr ⟨c, left, m, hfirst, hsecond⟩⟩

/-! ## What a step can do -/

theorem meets_of_unifyStep (hs : b.Ended s) (ht : b.Ended t) (h : b.unifyStep s t = (c, some es)) :
    Meets b s t c es := by
  unfold unifyStep at h
  split at h
  · rename_i name i name' j
    split at h
    · rename_i hij
      subst hij
      cases h
      exact .same name name' i
    · rename_i hij
      cases h
      refine .left name (hs _ i rfl) fun _ k heq => ?_
      cases heq
      exact ⟨Ne.symm hij, ht _ j rfl⟩
  · rename_i name i hvar
    cases h
    exact .left name (hs _ i rfl) fun _ k heq => absurd heq (hvar _ k)
  · rename_i name j hvar
    cases h
    refine .right name (ht _ j rfl) ?_
    cases s with
    | var name' i => exact absurd rfl (hvar name' i)
    | const _ | compound _ _ | template _ | nil => rfl
  · rename_i v w
    split at h
    · rename_i hagree
      cases h
      exact .consts hagree
    · cases h
  · cases h
    exact .nils
  · cases h
    exact .compounds ..
  · cases h

/-- **Every step is the meeting of two terms** that have been followed. -/
theorem Step.exists_meets (hb : b.Sound) (h : Step b es c fs) : ∃ s t more rest, es = .pair s t :: rest ∧
    fs = more ++ rest ∧ Meets b (b.walk s) (b.walk t) c more := by
  cases h with
  | @pair s t _ more rest h =>
    exact ⟨s, t, more, rest, rfl, rfl, meets_of_unifyStep (hb.ended_walk s) (hb.ended_walk t) h⟩

theorem Meets.extends (h : Meets b s t c es) : Extends b c := by
  cases h with
  | left _ hi ht => exact Extends.refl.bind _ _ hi ht
  | right _ hj hs =>
    refine Extends.refl.bind _ _ hj fun _ _ heq => ?_
    subst heq
    cases hs
  | same | consts | nils | compounds => exact .refl

theorem Step.extends (hb : b.Sound) (h : Step b es c fs) : Extends b c := by
  obtain ⟨s, t, more, rest, -, -, hmeets⟩ := h.exists_meets hb
  exact hmeets.extends

theorem Steps.extends (hb : b.Sound) (h : Steps n b es c fs) : Extends b c := by
  induction h with
  | refl => exact .refl
  | cons hstep _ ih =>
    have hfirst := hstep.extends hb
    exact hfirst.trans (ih (Extends.trans hb hfirst))

/-! ## Kinds of terms -/

theorem exists_arg_of_argAt? {key : ArgKey} : ∀ {i : Nat} {args : List (Arg Term)},
    Call.argAt? key i args = some t → ∃ a ∈ args, a.value = t
  | _, [], h => nomatch h
  | i, a :: rest, h => by
    rw [Call.argAt?] at h
    split at h
    · exact ⟨a, List.mem_cons_self, Option.some.inj h⟩
    · obtain ⟨a', ha', rfl⟩ := exists_arg_of_argAt? h
      exact ⟨a', List.mem_cons_of_mem a ha', rfl⟩

theorem args_of_mem_namedEquations {goal : Call} : ∀ {i : Nat} {args : List (Arg Term)},
    .pair s t ∈ namedEquations goal i args → (∃ a ∈ goal.args, a.value = s) ∧ ∃ a ∈ args, a.value = t
  | _, [], h => nomatch h
  | i, a :: rest, h => by
    unfold namedEquations at h
    split at h
    · rename_i u hu
      rcases List.mem_cons.1 h with heq | h
      · cases heq
        exact ⟨exists_arg_of_argAt? hu, a, List.mem_cons_self, rfl⟩
      · obtain ⟨hs, a', ha', ht⟩ := args_of_mem_namedEquations h
        exact ⟨hs, a', List.mem_cons_of_mem a ha', ht⟩
    · cases List.mem_singleton.1 h

/-- **An equation of a goal and a head pairs an argument of the one with an argument of the other.** -/
theorem args_of_mem_callEquations {goal head : Call} (h : .pair s t ∈ callEquations goal head) :
    (∃ a ∈ goal.args, a.value = s) ∧ ∃ a ∈ head.args, a.value = t := by
  unfold callEquations at h
  split at h
  · cases List.mem_singleton.1 h
  · split at h
    · exact args_of_mem_namedEquations h
    · split at h
      · cases List.mem_singleton.1 h
      · rw [← List.map_uncurry_zip_eq_zipWith] at h
        obtain ⟨⟨a, a'⟩, hmem, heq⟩ := List.mem_map.1 h
        cases heq
        obtain ⟨ha, ha'⟩ := List.of_mem_zip hmem
        exact ⟨⟨a, ha, rfl⟩, a', ha', rfl⟩

def Equation.Both (P : Term → Prop) : Equation → Prop
  | .pair s t => P s ∧ P t
  | .clash => True

theorem both_callEquations {P : Term → Prop} {goal head : Call} (hgoal : ∀ a ∈ goal.args, P a.value)
    (hhead : ∀ a ∈ head.args, P a.value) : ∀ e ∈ callEquations goal head, e.Both P
  | .clash, _ => trivial
  | .pair _ _, he => by
    obtain ⟨⟨a, ha, rfl⟩, a', ha', rfl⟩ := args_of_mem_callEquations he
    exact ⟨hgoal a ha, hhead a' ha'⟩

/-- **A kind of terms is closed**: the arguments of its compound terms are of that kind, and so are the terms that the
slots of its variables hold. -/
structure Shut (P : Term → Prop) (b : Bindings) : Prop where
  args : ∀ f args, P (.compound f args) → ∀ a ∈ args, P a.value
  held : ∀ name i t, P (.var name i) → b.lookup? i = some t → P t

theorem Shut.walk {P : Term → Prop} (h : Shut P b) (ht : P t) : P (b.walk t) := by
  have hfor : ∀ (n : Nat) {t : Term}, P t → P (b.walkFor n t) := by
    intro n
    induction n with
    | zero => exact fun ht => ht
    | succ n ih =>
      intro t ht
      cases t with
      | var name i =>
        unfold walkFor
        split
        · rename_i u hu
          exact ih (h.held name i u ht hu)
        · exact ht
      | const _ | compound _ _ | template _ | nil => exact ht
  exact hfor _ ht

theorem Shut.bind {P : Term → Prop} (h : Shut P b) {i : Nat} (ht : P t) : Shut P (b.bind i t) := by
  refine ⟨h.args, fun name j u hj hu => ?_⟩
  rw [lookup?_bind] at hu
  split at hu
  · cases hu
    exact ht
  · exact h.held name j u hj hu

/-- **Unification stays among the terms of a closed kind.** -/
theorem Step.shut {P : Term → Prop} (hb : b.Sound) (hP : Shut P b) (hes : ∀ e ∈ es, e.Both P) (h : Step b es c fs) :
    Shut P c ∧ ∀ e ∈ fs, e.Both P := by
  obtain ⟨s, t, more, rest, rfl, rfl, hmeets⟩ := h.exists_meets hb
  obtain ⟨⟨hs, ht⟩, hrest⟩ := List.forall_mem_cons.1 hes
  have hs := hP.walk hs
  have ht := hP.walk ht
  generalize b.walk s = s' at hmeets hs
  generalize b.walk t = t' at hmeets ht
  cases hmeets with
  | left => exact ⟨hP.bind ht, hrest⟩
  | right => exact ⟨hP.bind hs, hrest⟩
  | same | consts | nils => exact ⟨hP, hrest⟩
  | compounds f g as bs =>
    exact ⟨hP, List.forall_mem_append.2 ⟨both_callEquations (hP.args f as hs) (hP.args g bs ht), hrest⟩⟩

theorem Step.size_le {P : Term → Prop} (hb : b.Sound) (hP : Shut P b) (hes : ∀ e ∈ es, e.Both P)
    (hn : ∀ name i, P (.var name i) → i < n) (hsize : b.size ≤ n) (h : Step b es c fs) : c.size ≤ n := by
  obtain ⟨s, t, more, rest, rfl, rfl, hmeets⟩ := h.exists_meets hb
  obtain ⟨⟨hs, ht⟩, -⟩ := List.forall_mem_cons.1 hes
  have hs := hP.walk hs
  have ht := hP.walk ht
  generalize b.walk s = s' at hmeets hs
  generalize b.walk t = t' at hmeets ht
  cases hmeets with
  | left name =>
    rw [size_bind]
    exact Nat.max_le.2 ⟨hsize, hn _ _ hs⟩
  | right name =>
    rw [size_bind]
    exact Nat.max_le.2 ⟨hsize, hn _ _ ht⟩
  | same | consts | nils | compounds => exact hsize

theorem Steps.shut {P : Term → Prop} (hb : b.Sound) (hP : Shut P b) (hes : ∀ e ∈ es, e.Both P)
    (h : Steps n b es c fs) : Shut P c ∧ ∀ e ∈ fs, e.Both P :=
  (h.keeps (P := fun b es => b.Sound ∧ Shut P b ∧ ∀ e ∈ es, e.Both P)
    (fun hstep ⟨hb, hP, hes⟩ => ⟨Extends.trans hb (hstep.extends hb), hstep.shut hb hP hes⟩) ⟨hb, hP, hes⟩).2

theorem Steps.size_le {P : Term → Prop} (hb : b.Sound) (hP : Shut P b) (hes : ∀ e ∈ es, e.Both P)
    (hm : ∀ name i, P (.var name i) → i < m) (hsize : b.size ≤ m) (h : Steps n b es c fs) : c.size ≤ m :=
  (h.keeps (P := fun b es => b.Sound ∧ Shut P b ∧ (∀ e ∈ es, e.Both P) ∧ b.size ≤ m)
    (fun hstep ⟨hb, hP, hes, hsize⟩ => by
      obtain ⟨hP', hes'⟩ := hstep.shut hb hP hes
      exact ⟨Extends.trans hb (hstep.extends hb), hP', hes', hstep.size_le hb hP hes hm hsize⟩)
    ⟨hb, hP, hes, hsize⟩).2.2.2

end Remedy.Bindings
