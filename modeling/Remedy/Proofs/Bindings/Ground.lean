import Remedy.Proofs.Bindings.Effort
/-!
# Proofs.Bindings.Ground — unification with terms that have no variables

A goal is unified with a fact: variables stand on the left only, and each of them stands for nothing or for a term
without variables.  Then only what these variables stand for decides what comes of it, in bindings of whatever history
and however many slots (`Mirrors.unifyAll`).  Every step takes a part of the fact away, so it comes to an end whether or
not variables elsewhere lead back to themselves.  If it succeeds, the goal stands for the fact, part by part
(`Mirrors.stands_unifyAll`).  Unifying once more might fail: a number that is not equal to itself agrees with a variable, but
not with itself.
-/
namespace Remedy

theorem Term.isGround_of_mem {a : Arg Term} : ∀ {args : List (Arg Term)}, areGround args = true → a ∈ args →
    a.value.isGround = true
  | b :: rest, h, ha => by
    rw [areGround, Bool.and_eq_true] at h
    rcases List.mem_cons.1 ha with rfl | ha
    · exact h.1
    · exact isGround_of_mem h.2 ha

theorem Term.inside_of_isGround {Q : Nat → Prop} {t : Term} (h : t.isGround = true) : t.Inside Q := by
  intro v hv
  rw [mentions_eq_nil h] at hv
  cases hv

namespace Bindings

variable {Q : Nat → Prop} {b b' c c' d : Bindings} {s t u : Term} {es fs gs more rest : List Equation}
  {goal head : Call} {i m n : Nat}

/-- **Variables stand on the left only**, and are of a certain kind. -/
def Equation.Faces (Q : Nat → Prop) : Equation → Prop
  | .pair s t => s.Inside Q ∧ t.isGround = true
  | .clash => True

theorem faces_callEquations (hg : goal.Inside Q) (hh : head.isGround = true) :
    ∀ e ∈ callEquations goal head, e.Faces Q
  | .clash, _ => trivial
  | .pair _ _, he => by
    obtain ⟨⟨a, ha, rfl⟩, a', ha', rfl⟩ := args_of_mem_callEquations he
    exact ⟨hg.arg ha, Term.isGround_of_mem hh ha'⟩

/-- **Slots of a certain kind hold the same in both**, and it has no variables. -/
structure Mirrors (Q : Nat → Prop) (b c : Bindings) : Prop where
  same : ∀ i, Q i → c.lookup? i = b.lookup? i
  ground : ∀ i t, Q i → b.lookup? i = some t → t.isGround = true

theorem Mirrors.left (h : Mirrors Q b c) : Mirrors Q b b := ⟨fun _ _ => rfl, h.ground⟩

theorem Mirrors.right (h : Mirrors Q b c) : Mirrors Q c c :=
  ⟨fun _ _ => rfl, fun i t hi ht => h.ground i t hi ((h.same i hi).symm.trans ht)⟩

theorem Mirrors.bind (h : Mirrors Q b c) (ht : t.isGround = true) (i : Nat) : Mirrors Q (b.bind i t) (c.bind i t) := by
  refine ⟨fun j hj => ?_, fun j u hj hu => ?_⟩
  · rw [lookup?_bind, lookup?_bind, h.same j hj]
  · rw [lookup?_bind] at hu
    split at hu
    · cases hu
      exact ht
    · exact h.ground j u hj hu

theorem ended_of_not_isVar (ht : t.isVar = false) : b.Ended t := by
  rintro name j rfl
  cases ht

theorem ended_of_isGround (ht : t.isGround = true) : b.Ended t := ended_of_not_isVar (Term.isVar_of_isGround ht)

theorem walk_of_isGround (b : Bindings) (ht : t.isGround = true) : b.walk t = t :=
  walk_of_not_isVar (Term.isVar_of_isGround ht)

/-- A term that has been followed is the same in both, and a variable only if that stands for nothing. -/
theorem Mirrors.walk (h : Mirrors Q b c) (hs : s.Inside Q) :
    c.walk s = b.walk s ∧ b.Ended (b.walk s) ∧ (b.walk s).Inside Q := by
  cases s with
  | var name i =>
    have hi : Q i := hs _ List.mem_cons_self
    cases hu : b.lookup? i with
    | none =>
      rw [walk_of_free hu, walk_of_free ((h.same i hi).trans hu)]
      exact ⟨rfl, fun _ _ heq => by cases heq; exact hu, hs⟩
    | some u =>
      have hground := h.ground i u hi hu
      have hvar := Term.isVar_of_isGround hground
      rw [walk_of_bound hu hvar, walk_of_bound ((h.same i hi).trans hu) hvar]
      exact ⟨rfl, ended_of_not_isVar hvar, Term.inside_of_isGround hground⟩
  | const | compound | template | nil =>
    rw [walk_of_not_isVar rfl, walk_of_not_isVar rfl]
    exact ⟨rfl, ended_of_not_isVar rfl, hs⟩

/-! ## Step by step -/

/-- **A step can be made in both**, and they go on to mirror each other. -/
theorem Mirrors.step (h : Mirrors Q b c) (hes : ∀ e ∈ es, e.Faces Q) (hstep : Step b es b' fs) :
    ∃ c', Step c es c' fs ∧ Mirrors Q b' c' ∧ ∀ e ∈ fs, e.Faces Q := by
  obtain @⟨s, t, _, more, rest, heq⟩ := hstep
  obtain ⟨⟨hs, ht⟩, hrest⟩ := List.forall_mem_cons.1 hes
  obtain ⟨hwalk, hended, hinside⟩ := h.walk hs
  rw [walk_of_isGround b ht] at heq
  have hmeets := meets_of_unifyStep hended (ended_of_isGround ht) heq
  -- the other bindings take up the same two terms
  have hother : ∀ {c'}, c.unifyStep (b.walk s) t = (c', some more) → Step c (.pair s t :: rest) c' (more ++ rest) := by
    intro c' heq'
    rw [← hwalk] at heq'
    exact .pair rest (by rwa [walk_of_isGround c ht])
  generalize b.walk s = s' at hmeets hinside hother
  cases hmeets with
  | same | right => cases ht
  | left name hi =>
    refine ⟨c.bind _ t, hother ?_, h.bind ht _, hrest⟩
    cases t with
    | var => cases ht
    | const | compound | template | nil => rfl
  | consts hagree => exact ⟨c, hother (by rw [unifyStep, if_pos hagree]), h, hrest⟩
  | nils => exact ⟨c, hother rfl, h, hrest⟩
  | compounds f g as bs =>
    refine ⟨c, hother rfl, h, List.forall_mem_append.2 ⟨?_, hrest⟩⟩
    have hgoal : (Call.mk f as).Inside Q := hinside
    have hhead : (Call.mk g bs).isGround = true := ht
    exact faces_callEquations hgoal hhead

/-- What two terms leave to be unified does not depend on the bindings any more. -/
theorem unifyStep_leaves (b c : Bindings) (s t : Term) : (b.unifyStep s t).2 = (c.unifyStep s t).2 := by
  unfold unifyStep
  split
  · split <;> rfl
  all_goals rfl

/-- **What fails in the one fails in the other.** -/
theorem Mirrors.fails (h : Mirrors Q b c) (hes : ∀ e ∈ es, e.Faces Q) (hfails : Fails b es) : Fails c es := by
  cases hfails with
  | clash rest => exact .clash rest
  | @pair s t b' rest heq =>
    obtain ⟨⟨hs, ht⟩, -⟩ := List.forall_mem_cons.1 hes
    obtain ⟨hwalk, -, -⟩ := h.walk hs
    rw [walk_of_isGround b ht] at heq
    have hleaves := unifyStep_leaves c b (b.walk s) t
    rw [heq] at hleaves
    refine .pair (c := (c.unifyStep (c.walk s) (c.walk t)).1) rest (Prod.ext rfl ?_)
    rwa [walk_of_isGround c ht, hwalk]

theorem Mirrors.steps (h : Mirrors Q b c) (hes : ∀ e ∈ es, e.Faces Q) (hsteps : Steps n b es b' fs) :
    ∃ c', Steps n c es c' fs ∧ Mirrors Q b' c' ∧ ∀ e ∈ fs, e.Faces Q := by
  induction hsteps generalizing c with
  | refl => exact ⟨c, .refl c _, h, hes⟩
  | cons hstep _ ih =>
    obtain ⟨c₁, hfirst, h₁, hes₁⟩ := h.step hes hstep
    obtain ⟨c', hrest, hend⟩ := ih h₁ hes₁
    exact ⟨c', .cons hfirst hrest, hend⟩

/-! ## How it ends -/

def heft (es : List Equation) : Nat := costs .empty es

theorem heft_append (es fs : List Equation) : heft (es ++ fs) = heft es + heft fs := costs_append .empty es fs

theorem heft_pair_cons (ht : t.isGround = true) (rest : List Equation) :
    heft (.pair s t :: rest) = t.size + heft rest := by
  unfold heft
  rw [costs_cons, Equation.cost, resolve, resolveFor_of_isGround _ ht]

theorem Mirrors.heft_lt (h : Mirrors Q b c) (hes : ∀ e ∈ es, e.Faces Q) (hstep : Step b es b' fs) :
    heft fs < heft es := by
  obtain @⟨s, t, _, more, rest, heq⟩ := hstep
  obtain ⟨⟨hs, ht⟩, -⟩ := List.forall_mem_cons.1 hes
  obtain ⟨-, hended, -⟩ := h.walk hs
  rw [walk_of_isGround b ht] at heq
  have hlt := (meets_of_unifyStep hended (ended_of_isGround ht) heq).costs_lt .empty
  rw [resolve, resolveFor_of_isGround _ ht] at hlt
  rw [heft_append, heft_pair_cons ht]
  exact Nat.add_lt_add_right hlt _

theorem Mirrors.heft_le (h : Mirrors Q b c) (hes : ∀ e ∈ es, e.Faces Q) (hsteps : Steps n b es b' fs) :
    heft fs + n ≤ heft es := by
  induction hsteps generalizing c with
  | refl => exact Nat.le_refl _
  | cons hstep _ ih =>
    obtain ⟨c₁, -, h₁, hes₁⟩ := h.step hes hstep
    have hlt := h.heft_lt hes hstep
    have hle := ih h₁ hes₁
    omega

theorem heft_lt_enough (b : Bindings) (hes : ∀ e ∈ es, e.Faces Q) : heft es < b.enough es := by
  have hsizes : heft es ≤ (es.map Equation.size).sum := by
    clear b
    induction es with
    | nil => exact Nat.le_refl 0
    | cons e es ih =>
      obtain ⟨he, hrest⟩ := List.forall_mem_cons.1 hes
      have hle := ih hrest
      rw [List.map_cons, List.sum_cons]
      cases e with
      | clash =>
        have heq : heft (.clash :: es) = heft es := by simp [heft, costs_cons, Equation.cost]
        omega
      | pair s t =>
        rw [heft_pair_cons he.2, Equation.size]
        omega
  have hbulk := bulk_eq b es
  calc heft es < b.bulk es := by omega
    _ ≤ b.enough es := Nat.le_self_pow (by omega) _

def Ends (b : Bindings) (es : List Equation) : Prop := es = [] ∨ Fails b es

theorem Ends.not_step (h : Ends b es) : ¬Step b es c fs := by
  rintro ⟨rest, heq⟩
  rcases h with h | h
  · cases h
  · obtain _ | ⟨_, heq'⟩ := h
    rw [heq] at heq'
    cases heq'

theorem Step.unique (h : Step b es c fs) (h' : Step b es d gs) : c = d ∧ fs = gs := by
  obtain ⟨rest, heq⟩ := h
  obtain ⟨_, heq'⟩ := h'
  rw [heq] at heq'
  cases heq'
  exact ⟨rfl, rfl⟩

/-- **Steps that have come to an end have come to the same end.** -/
theorem Steps.unique (h : Steps m b es c fs) (hc : Ends c fs) (h' : Steps n b es d gs) (hd : Ends d gs) :
    c = d ∧ fs = gs := by
  induction h generalizing n with
  | refl =>
    cases h' with
    | refl => exact ⟨rfl, rfl⟩
    | cons hstep => exact absurd hstep hc.not_step
  | cons hstep _ ih =>
    cases h' with
    | refl => exact absurd hstep hd.not_step
    | cons hstep' hrest' =>
      obtain ⟨rfl, rfl⟩ := hstep.unique hstep'
      exact ih hc hrest'

/-- **Such unification is never given up**, also where a variable leads back to itself. -/
theorem Mirrors.exists_steps (h : Mirrors Q b c) (hes : ∀ e ∈ es, e.Faces Q) :
    ∃ n fs, Steps n b es (b.unifyAll es).1 fs ∧ Ends (b.unifyAll es).1 fs ∧ ((b.unifyAll es).2 = true ↔ fs = []) := by
  obtain ⟨n, fs, hsteps, hend⟩ := exists_steps_unifyAll b es
  refine ⟨n, fs, hsteps, ?_⟩
  split at hend
  · rename_i htrue
    exact ⟨.inl hend, iff_of_true htrue hend⟩
  · rename_i hfalse
    have hfails : Fails (b.unifyAll es).1 fs := by
      refine hend.resolve_right ?_
      rintro ⟨b₁, gs, m, hfirst, hsecond⟩
      obtain ⟨c₁, -, h₁, hgs⟩ := h.steps hes hfirst
      have hle := h₁.heft_le hgs hsecond
      have hlt := heft_lt_enough b₁ hgs
      omega
    exact ⟨.inr hfails, iff_of_false hfalse (by rintro rfl; cases hfails)⟩

/-- **Bindings that mirror each other tell alike whether a goal stands for a fact**, and do so afterwards. -/
theorem Mirrors.unifyAll (h : Mirrors Q b c) (hes : ∀ e ∈ es, e.Faces Q) :
    (b.unifyAll es).2 = (c.unifyAll es).2 ∧ Mirrors Q (b.unifyAll es).1 (c.unifyAll es).1 := by
  obtain ⟨n, fs, hb, hbend, hbs⟩ := h.exists_steps hes
  obtain ⟨m, gs, hc, hcend, hcs⟩ := h.right.exists_steps hes
  obtain ⟨c', hc', h', hfs⟩ := h.steps hes hb
  have hends : Ends c' fs := hbend.imp id (h'.fails hfs)
  obtain ⟨rfl, rfl⟩ := hc'.unique hends hc hcend
  exact ⟨Bool.eq_iff_iff.2 (hbs.trans hcs.symm), h'⟩

/-! ## What has come of it -/

/-- **A term stands for another one without variables**: a variable is bound to it, or to another term that stands for
it; parts of compound terms stand for their partners, in arguments that the other term has. -/
inductive Stands (b : Bindings) : Term → Term → Prop
  | bound (name : String) {i : Nat} {t : Term} (hi : b.lookup? i = some t) : Stands b (.var name i) t
  | again (name : String) {i : Nat} {t u : Term} (hi : b.lookup? i = some u) (h : Stands b u t) :
    Stands b (.var name i) t
  | const {v w : Value} (h : constsAgree v w = true) : Stands b (.const v) (.const w)
  | nil : Stands b .nil .nil
  | compound {f g : String} {as bs : List (Arg Term)} (hpaired : .clash ∉ callEquations ⟨f, as⟩ ⟨g, bs⟩)
    (h : ∀ s t, .pair s t ∈ callEquations ⟨f, as⟩ ⟨g, bs⟩ → Stands b s t) : Stands b (.compound f as) (.compound g bs)

def Equation.Stands (b : Bindings) : Equation → Prop
  | .pair s t => b.Stands s t
  | .clash => False

/-- **A goal stands for a fact**, argument by argument. -/
def StandsFor (b : Bindings) (goal fact : Call) : Prop := ∀ e ∈ callEquations goal fact, e.Stands b

theorem Stands.kept (hkept : ∀ i u, b.lookup? i = some u → c.lookup? i = some u) (h : b.Stands s t) :
    c.Stands s t := by
  induction h with
  | bound name hi => exact .bound name (hkept _ _ hi)
  | again name hi _ ih => exact .again name (hkept _ _ hi) ih
  | const hagree => exact .const hagree
  | nil => exact .nil
  | compound hpaired _ ih => exact .compound hpaired ih

theorem Mirrors.kept_step (h : Mirrors Q b c) (hes : ∀ e ∈ es, e.Faces Q) (hstep : Step b es b' fs) :
    ∀ i u, b.lookup? i = some u → b'.lookup? i = some u := by
  obtain @⟨s, t, _, more, rest, heq⟩ := hstep
  obtain ⟨⟨hs, ht⟩, -⟩ := List.forall_mem_cons.1 hes
  obtain ⟨-, hended, -⟩ := h.walk hs
  rw [walk_of_isGround b ht] at heq
  exact fun i u => (meets_of_unifyStep hended (ended_of_isGround ht) heq).extends.lookup?_eq

/-- **An equation that has been taken up stands if what it left does.** -/
theorem Mirrors.stands_step (h : Mirrors Q b c) (hes : ∀ e ∈ es, e.Faces Q) (hstep : Step b es b' fs)
    (hkept : ∀ i u, b'.lookup? i = some u → d.lookup? i = some u) (hfs : ∀ e ∈ fs, e.Stands d) :
    ∀ e ∈ es, e.Stands d := by
  have hb := h.kept_step hes hstep
  obtain @⟨s, t, _, more, rest, heq⟩ := hstep
  obtain ⟨⟨hs, ht⟩, -⟩ := List.forall_mem_cons.1 hes
  obtain ⟨hmore, hrest⟩ := List.forall_mem_append.1 hfs
  obtain ⟨-, hended, -⟩ := h.walk hs
  rw [walk_of_isGround b ht] at heq
  have hmeets := meets_of_unifyStep hended (ended_of_isGround ht) heq
  have hwalk : d.Stands (b.walk s) t := by
    generalize b.walk s = s' at hmeets
    cases hmeets with
    | same | right => cases ht
    | left name hi => exact .bound name (hkept _ _ (by rw [lookup?_bind, if_pos rfl]))
    | consts hagree => exact .const hagree
    | nils => exact .nil
    | compounds f g as bs => exact .compound (hmore .clash) fun s t he => hmore _ he
  refine List.forall_mem_cons.2 ⟨?_, hrest⟩
  -- a bound variable stands for what its term stands for
  cases s with
  | var name i =>
    cases hu : b.lookup? i with
    | none => rwa [walk_of_free hu] at hwalk
    | some u =>
      rw [walk_of_bound hu (Term.isVar_of_isGround (h.ground i u (hs _ List.mem_cons_self) hu))] at hwalk
      exact .again name (hkept _ _ (hb _ _ hu)) hwalk
  | const | compound | template | nil => rwa [walk_of_not_isVar rfl] at hwalk

theorem Mirrors.stands_steps (h : Mirrors Q b c) (hes : ∀ e ∈ es, e.Faces Q) (hsteps : Steps n b es d []) :
    (∀ i u, b.lookup? i = some u → d.lookup? i = some u) ∧ ∀ e ∈ es, e.Stands d := by
  generalize hfs : ([] : List Equation) = fs at hsteps
  induction hsteps generalizing c with
  | refl =>
    subst hfs
    exact ⟨fun _ _ hi => hi, List.forall_mem_nil _⟩
  | cons hstep _ ih =>
    obtain ⟨c₁, -, h₁, hes₁⟩ := h.step hes hstep
    obtain ⟨hkept, hstands⟩ := ih h₁ hes₁ hfs
    exact ⟨fun i u hi => hkept i u (h.kept_step hes hstep i u hi), h.stands_step hes hstep hkept hstands⟩

/-- **Where unification succeeds, the one side stands for the other.** -/
theorem Mirrors.stands_unifyAll (h : Mirrors Q b c) (hes : ∀ e ∈ es, e.Faces Q) (hsuccess : (b.unifyAll es).2 = true) :
    ∀ e ∈ es, e.Stands (b.unifyAll es).1 := by
  obtain ⟨n, fs, hsteps, -, hend⟩ := h.exists_steps hes
  obtain rfl := hend.1 hsuccess
  exact (h.stands_steps hes hsteps).2

/-! ## Terms whose variables stand for nothing -/

/-- **Resolving a term comes to an end**: no variable of the result stands for anything. -/
def Resolves (b : Bindings) (t : Term) : Prop := ∀ v ∈ (b.resolve t).mentions, b.lookup? v.2 = none

theorem Acyclic.resolves (h : b.Acyclic) (t : Term) : b.Resolves t := by
  refine h.induction (P := b.Resolves) (fun t ih v hv => ?_) t
  rw [mentions_resolve] at hv
  obtain ⟨w, hw, hv⟩ := List.mem_flatMap.1 hv
  cases hu : b.lookup? w.2 with
  | none =>
    rw [resolve_free hu] at hv
    obtain rfl := List.mem_singleton.1 hv
    exact hu
  | some u =>
    rw [h.resolve_var w.1 hu] at hv
    exact ih w hw u hu v hv

/-- **Slots that hold nothing mirror each other.** -/
theorem mirrors_free (hb : ∀ i, Q i → b.lookup? i = none) (hc : ∀ i, Q i → c.lookup? i = none) : Mirrors Q b c :=
  ⟨fun i hi => (hc i hi).trans (hb i hi).symm, fun i t hi ht => by rw [hb i hi] at ht; cases ht⟩

end Bindings

end Remedy
