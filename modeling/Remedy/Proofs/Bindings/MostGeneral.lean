import Remedy.Proofs.Bindings.Positional
/-!
# Proofs.Bindings.MostGeneral — unification finds the most general unifier

A substitution that respects the bindings and solves the equations goes on to do both with every step, and if there is
one no others join it (`Step.unifies_iff`); an equation that it solves does not fail (`Unifies.not_fails`).  Bindings
that it respects are acyclic (`RespectedBy.acyclic`): a slot that holds a
variable stands for the same term as that variable, and chains of variables end (`exists_rank`); any other slot stands
for a larger term than all that its term mentions.  So unification comes to an end, with success, and all
substitutions that respected the bindings and solved the equation respect what has come of the bindings
(`unify_mostGeneral`).
-/
namespace Remedy

namespace Term

variable {σ : Nat → Term} {v : String × Nat}

def subst (σ : Nat → Term) (t : Term) : Term := t.bind fun _ i => σ i

theorem subst_compound (f : String) (args : List (Arg Term)) :
    (compound f args).subst σ = compound f (args.map fun a => ⟨a.name, a.value.subst σ⟩) := by
  rw [subst, bind, bindArgs_eq_map]
  rfl

mutual

theorem size_le_subst : ∀ {t : Term}, v ∈ t.mentions → (σ v.2).size ≤ (t.subst σ).size
  | .const _, hv | .template _, hv | .nil, hv => nomatch hv
  | .var name i, hv => by
    rcases List.mem_singleton.1 hv with rfl
    exact Nat.le_refl _
  | .compound _ _, hv => Nat.le_succ_of_le (size_le_substArgs hv)

theorem size_le_substArgs : ∀ {args : List (Arg Term)}, v ∈ mentionsOf args →
    (σ v.2).size ≤ sizeOfArgs (bindArgs (fun _ i => σ i) args)
  | a :: rest, hv => by
    rw [bindArgs, sizeOfArgs]
    rcases List.mem_append.1 hv with hv | hv
    · exact (size_le_subst hv).trans (Nat.le_add_right _ _)
    · exact (size_le_substArgs hv).trans (Nat.le_add_left _ _)

end

/-- What a slot in a term stands for is smaller than what the term stands for, unless the term is a variable. -/
theorem size_lt_subst {t : Term} (ht : t.isVar = false) (hv : v ∈ t.mentions) : (σ v.2).size < (t.subst σ).size := by
  cases t with
  | var => cases ht
  | compound f args => exact Nat.lt_succ_of_le (size_le_substArgs hv)
  | const | template | nil => cases hv

end Term

namespace Bindings

variable {b c d : Bindings} {s t : Term} {es fs more : List Equation} {n : Nat} {σ τ : Nat → Term}

/-- **A substitution respects bindings** if a slot stands for what the term that it holds stands for. -/
def RespectedBy (σ : Nat → Term) (b : Bindings) : Prop := ∀ i t, b.lookup? i = some t → σ i = t.subst σ

def Equation.SolvedBy (σ : Nat → Term) : Equation → Prop
  | .pair s t => s.subst σ = t.subst σ
  | .clash => False

/-- **Chains of variables lead down a ranking of the slots.** -/
theorem Sound.exists_rank (hb : b.Sound) :
    ∃ rank : Nat → Nat, ∀ i name j, b.lookup? i = some (.var name j) → rank j < rank i := by
  induction hb with
  | refl =>
    refine ⟨id, fun i name j hi => ?_⟩
    rw [lookup?_eq_none (Nat.zero_le i)] at hi
    cases hi
  | @allocate c _ n ih =>
    obtain ⟨rank, hrank⟩ := ih
    refine ⟨rank, fun i name j hi => ?_⟩
    rw [lookup?_allocate] at hi
    exact hrank i name j hi
  | @bind c _ i t hi ht ih =>
    obtain ⟨rank, hrank⟩ := ih
    by_cases hvar : ∃ name j, t = .var name j
    · -- the variable that the slot is bound to stands for nothing, so nothing need be below it
      obtain ⟨name, j, rfl⟩ := hvar
      obtain ⟨hji, hj⟩ := ht name j rfl
      refine ⟨fun k => if k = j then 0 else rank k + 1, fun k name' l hk => ?_⟩
      rw [lookup?_bind] at hk
      split at hk
      · rename_i hik
        subst hik
        cases hk
        simp [Ne.symm hji]
      · have hkj : k ≠ j := by
          intro heq
          rw [heq, hj] at hk
          cases hk
        have hlt := hrank k name' l hk
        by_cases hl : l = j
        · simp [hl, hkj]
        · simp [hl, hkj, hlt]
    · refine ⟨rank, fun k name j hk => ?_⟩
      rw [lookup?_bind] at hk
      split at hk
      · cases hk
        exact absurd ⟨name, j, rfl⟩ hvar
      · exact hrank k name j hk

/-- **Bindings that a substitution by finite terms respects are acyclic.** -/
theorem RespectedBy.acyclic (h : RespectedBy σ b) (hb : b.Sound) : b.Acyclic := by
  obtain ⟨rank, hrank⟩ := hb.exists_rank
  refine acyclic_of_rank (fun i => toLex ((σ i).size, rank i)) fun i t hi v hv => ?_
  rw [Prod.Lex.toLex_lt_toLex]
  have hsize : (σ i).size = (t.subst σ).size := congrArg Term.size (h i t hi)
  cases hvar : t.isVar with
  | false =>
    rw [hsize]
    exact .inl (Term.size_lt_subst hvar hv)
  | true =>
    cases t with
    | var name j =>
      obtain rfl := List.mem_singleton.1 hv
      exact .inr ⟨hsize.symm, hrank i name j hi⟩
    | const | compound | template | nil => cases hvar

theorem RespectedBy.subst_walkFor (h : RespectedBy σ b) : ∀ (n : Nat) (t : Term),
    (b.walkFor n t).subst σ = t.subst σ
  | 0, _ => rfl
  | n + 1, .var name i => by
    unfold walkFor
    split
    · rename_i u hu
      rw [h.subst_walkFor n u]
      exact (h i u hu).symm
    · rfl
  | _ + 1, .const _ | _ + 1, .compound _ _ | _ + 1, .template _ | _ + 1, .nil => rfl

theorem RespectedBy.subst_walk (h : RespectedBy σ b) (t : Term) : (b.walk t).subst σ = t.subst σ :=
  h.subst_walkFor _ t

theorem respectedBy_bind {i : Nat} (hi : b.lookup? i = none) :
    RespectedBy σ (b.bind i t) ↔ RespectedBy σ b ∧ σ i = t.subst σ := by
  constructor
  · intro h
    refine ⟨fun j u hj => h j u ?_, h i t (by rw [lookup?_bind, if_pos rfl])⟩
    have hij : i ≠ j := by
      intro heq
      rw [← heq, hi] at hj
      cases hj
    rw [lookup?_bind, if_neg hij, hj]
  · rintro ⟨h, hit⟩ j u hj
    rw [lookup?_bind] at hj
    split at hj
    · rename_i hij
      cases hj
      rw [← hij, hit]
    · exact h j u hj

theorem solved_zipWith_iff : ∀ {as bs : List (Arg Term)}, (∀ a ∈ as, a.name = none) → (∀ a ∈ bs, a.name = none) →
    as.length = bs.length → ((∀ e ∈ List.zipWith (fun a b => .pair a.value b.value) as bs, Equation.SolvedBy σ e) ↔
      as.map (fun a => (⟨a.name, a.value.subst σ⟩ : Arg Term)) = bs.map (fun a => ⟨a.name, a.value.subst σ⟩))
  | [], [], _, _, _ => by simp
  | a :: as, b :: bs, has, hbs, hl => by
    obtain ⟨ha, has⟩ := List.forall_mem_cons.1 has
    obtain ⟨hb, hbs⟩ := List.forall_mem_cons.1 hbs
    rw [List.zipWith_cons_cons, List.forall_mem_cons, solved_zipWith_iff has hbs (Nat.succ.inj hl)]
    simp [Equation.SolvedBy, ha, hb]

/-- **A substitution solves what is left of two terms if and only if it makes them the same**, provided that some
substitution does: otherwise numbers of the same size would pass for each other. -/
theorem Meets.solved_iff (h : Meets b s t c more) (hs : s.isRegular = true) (ht : t.isRegular = true)
    (heq : s.subst σ = t.subst σ) :
    RespectedBy τ c ∧ (∀ e ∈ more, e.SolvedBy τ) ↔ RespectedBy τ b ∧ s.subst τ = t.subst τ := by
  cases h with
  | same name name' i =>
    have hself : (Term.var name i).subst τ = (Term.var name' i).subst τ := rfl
    simp [hself]
  | left name hi =>
    rw [respectedBy_bind hi]
    simp [Term.subst, Term.bind]
  | right name hj =>
    rw [respectedBy_bind hj]
    simp [Term.subst, Term.bind, eq_comm]
  -- the substitution that is given makes sure that the constants are equal, not only as numbers
  | consts =>
    obtain rfl := Term.const.inj heq
    simp
  | nils => simp
  | compounds f g as bs =>
    rw [Term.subst_compound, Term.subst_compound] at heq
    obtain ⟨rfl, hargs⟩ := Term.compound.inj heq
    have hl : as.length = bs.length := by simpa using congrArg List.length hargs
    have has := fun a ha => (Term.isUnnamed_compound.1 hs a ha).1
    have hbs := fun a ha => (Term.isUnnamed_compound.1 ht a ha).1
    rw [callEquations_unnamed has hbs, if_pos ⟨rfl, hl⟩, solved_zipWith_iff has hbs hl, Term.subst_compound,
      Term.subst_compound]
    simp

variable {P : Term → Prop}

/-- **A substitution unifies** what is left to unify if it respects the bindings and solves the equations. -/
structure Unifies (σ : Nat → Term) (b : Bindings) (es : List Equation) : Prop where
  respected : RespectedBy σ b
  solved : ∀ e ∈ es, e.SolvedBy σ

/-- **A step changes nothing in what unifies**, if anything does. -/
theorem Step.unifies_iff (hP : ∀ t, P t → t.isRegular = true) (hb : b.Sound) (hshut : Shut P b)
    (hes : ∀ e ∈ es, e.Both P) (h : Step b es c fs) (hσ : Unifies σ b es) : Unifies τ c fs ↔ Unifies τ b es := by
  obtain ⟨s, t, more, rest, rfl, rfl, hmeets⟩ := h.exists_meets hb
  obtain ⟨⟨hs, ht⟩, -⟩ := List.forall_mem_cons.1 hes
  have hpair : s.subst σ = t.subst σ := hσ.solved _ List.mem_cons_self
  rw [← hσ.respected.subst_walk s, ← hσ.respected.subst_walk t] at hpair
  have hiff := hmeets.solved_iff (τ := τ) (hP _ (hshut.walk hs)) (hP _ (hshut.walk ht)) hpair
  constructor
  · rintro ⟨hc, hfs⟩
    obtain ⟨hmore, hrest⟩ := List.forall_mem_append.1 hfs
    obtain ⟨hτ, heq⟩ := hiff.1 ⟨hc, hmore⟩
    rw [hτ.subst_walk, hτ.subst_walk] at heq
    exact ⟨hτ, List.forall_mem_cons.2 ⟨heq, hrest⟩⟩
  · rintro ⟨hτ, hall⟩
    obtain ⟨heq, hrest⟩ := List.forall_mem_cons.1 hall
    have heq : s.subst τ = t.subst τ := heq
    rw [← hτ.subst_walk s, ← hτ.subst_walk t] at heq
    obtain ⟨hc, hmore⟩ := hiff.2 ⟨hτ, heq⟩
    exact ⟨hc, List.forall_mem_append.2 ⟨hmore, hrest⟩⟩

theorem Steps.unifies_iff (hP : ∀ t, P t → t.isRegular = true) (hb : b.Sound) (hshut : Shut P b)
    (hes : ∀ e ∈ es, e.Both P) (h : Steps n b es c fs) (hσ : Unifies σ b es) : Unifies τ c fs ↔ Unifies τ b es := by
  induction h with
  | refl => rfl
  | cons hstep _ ih =>
    obtain ⟨hshut', hes'⟩ := hstep.shut hb hshut hes
    have hσ' := (hstep.unifies_iff hP hb hshut hes hσ).2 hσ
    exact (ih (Extends.trans hb (hstep.extends hb)) hshut' hes' hσ').trans (hstep.unifies_iff hP hb hshut hes hσ)

theorem unifyStep_ne_none (hs : s.isRegular = true) (ht : t.isRegular = true) (heq : s.subst σ = t.subst σ) :
    b.unifyStep s t ≠ (c, none) := by
  intro h
  unfold unifyStep at h
  split at h
  · split at h <;> cases h
  · cases h
  · cases h
  · rename_i v w
    obtain rfl := Term.const.inj heq
    have hself : (v == v) = true := hs
    rw [constsAgree, hself] at h
    cases h
  · cases h
  · cases h
  · -- neither is a variable, so the substitution has left their shapes as they were
    rename_i hleft hright _ hconsts hnils hcompounds
    cases s with
    | var name i => exact hleft name i rfl
    | template e => cases hs
    | const v =>
      cases t with
      | const w => exact hconsts v w rfl rfl
      | var name j => exact hright name j rfl
      | compound _ _ | template _ | nil => cases heq
    | compound f as =>
      cases t with
      | compound g bs => exact hcompounds f as g bs rfl rfl
      | var name j => exact hright name j rfl
      | const _ | template _ | nil => cases heq
    | nil =>
      cases t with
      | nil => exact hnils rfl rfl
      | var name j => exact hright name j rfl
      | const _ | compound _ _ | template _ => cases heq

/-- **What a substitution unifies does not fail.** -/
theorem Unifies.not_fails (h : Unifies σ b es) (hP : ∀ t, P t → t.isRegular = true) (hshut : Shut P b)
    (hes : ∀ e ∈ es, e.Both P) : ¬Fails b es := by
  intro hfails
  cases hfails with
  | clash rest => exact h.solved .clash List.mem_cons_self
  | @pair s t c rest hnone =>
    obtain ⟨hs, ht⟩ := hes (.pair s t) List.mem_cons_self
    have hpair : s.subst σ = t.subst σ := h.solved (.pair s t) List.mem_cons_self
    refine unifyStep_ne_none (σ := σ) (hP _ (hshut.walk hs)) (hP _ (hshut.walk ht)) ?_ hnone
    rw [h.respected.subst_walk, h.respected.subst_walk, hpair]

theorem unifies_pair : Unifies σ b [.pair s t] ↔ RespectedBy σ b ∧ s.subst σ = t.subst σ :=
  ⟨fun h => ⟨h.respected, h.solved (.pair s t) List.mem_cons_self⟩,
    fun ⟨hb, heq⟩ => ⟨hb, fun _ he => List.mem_singleton.1 he ▸ heq⟩⟩

theorem unifies_nil : Unifies σ b [] ↔ RespectedBy σ b :=
  ⟨fun h => h.respected, fun hb => ⟨hb, fun _ he => nomatch he⟩⟩

/-- **Unification finds the most general unifier**: if some substitution by finite terms respects the bindings and makes
the two terms the same, the steps of unification come to an end with no equation left, no variable leads back to
itself, and the substitutions that respect the bindings then are all those of this kind. -/
theorem unify_mostGeneral (hb : b.Made) (hs : s.isRegular = true) (ht : t.isRegular = true)
    (hheld : ∀ i u, b.Reaches [s, t] i → b.lookup? i = some u → u.isRegular = true)
    (hσ : RespectedBy σ b) (heq : s.subst σ = t.subst σ) :
    ∃ n c, Steps n b [.pair s t] c [] ∧ b.unify s t = (c, true) ∧ c.Acyclic ∧
      ∀ τ, RespectedBy τ c ↔ RespectedBy τ b ∧ s.subst τ = t.subst τ := by
  have hshut := shut_unnamed hheld
  have hboth := both_unnamed (b := b) hs ht
  have hunifies := unifies_pair.2 ⟨hσ, heq⟩
  have hiff : ∀ {n c fs τ}, Steps n b [.pair s t] c fs → (Unifies τ c fs ↔ Unifies τ b [.pair s t]) :=
    fun hsteps => hsteps.unifies_iff (fun _ hu => hu.1) hb.sound hshut hboth hunifies
  -- wherever unification comes to, the substitution still unifies, so there are no cycles
  have hacyclic : (b.unifyAll [.pair s t]).1.Acyclic := by
    obtain ⟨n, fs, hsteps, -⟩ := exists_steps_unifyAll b [.pair s t]
    exact ((hiff hsteps).2 hunifies).respected.acyclic (Extends.trans hb.sound (hsteps.extends hb.sound))
  obtain ⟨n, fs, hsteps, hend⟩ := exists_steps_of_acyclic hb.sound hacyclic
  split at hend
  · rename_i hsuccess
    subst hend
    refine ⟨n, _, hsteps, Prod.ext rfl hsuccess, hacyclic, fun τ => ?_⟩
    rw [← unifies_nil, hiff hsteps, unifies_pair]
  · obtain ⟨hshut', hboth'⟩ := hsteps.shut hb.sound hshut hboth
    exact absurd hend (((hiff hsteps).2 hunifies).not_fails (fun _ hu => hu.1) hshut' hboth')

/-- The bindings of `X` to `f(1, ?Y)`, with one more variable `Z`. -/
def halfway : Bindings :=
  ((empty.allocate 3).2.unify (.var "X" 0) (.compound "f" (positional [.const (.int 1), .var "Y" 1]))).1

def ones : Nat → Term
  | 0 => .compound "f" (positional [.const (.int 1), .compound "g" (positional [.const (.int 1)])])
  | 1 => .compound "g" (positional [.const (.int 1)])
  | _ => .const (.int 1)

theorem respectedBy_halfway : RespectedBy ones halfway := by
  intro i t hi
  have hlt : i < 3 := lt_size_of_lookup? hi
  rcases i with _ | _ | _ | i
  · obtain rfl := Option.some.inj hi
    rfl
  · cases hi
  · cases hi
  · omega

/-- `X` is unified with `f(?Z, g(?Z))`. -/
theorem unify_mostGeneral_halfway :
    (halfway.Made ∧ RespectedBy ones halfway ∧ Term.subst ones (.var "X" 0) =
      Term.subst ones (.compound "f" (positional [.var "Z" 2, .compound "g" (positional [.var "Z" 2])]))) ∧
    ∃ c, halfway.unify (.var "X" 0) (.compound "f" (positional [.var "Z" 2, .compound "g" (positional [.var "Z" 2])])) =
      (c, true) ∧ c.Acyclic ∧ RespectedBy ones c := by
  have hmade : halfway.Made := (Made.empty.allocate 3).unify _ _
  obtain ⟨_, c, -, hc, hacyclic, hiff⟩ := unify_mostGeneral hmade (s := .var "X" 0)
    (t := .compound "f" (positional [.var "Z" 2, .compound "g" (positional [.var "Z" 2])])) rfl rfl
    (fun i u _ hi => held_of_all rfl hi) respectedBy_halfway rfl
  exact ⟨⟨hmade, respectedBy_halfway, rfl⟩, c, hc, hacyclic, (hiff ones).2 ⟨respectedBy_halfway, rfl⟩⟩

def doubled : Term := .compound "f" [⟨some "a", .const (.int 1)⟩, ⟨some "a", .const (.int 2)⟩]

/-- The bindings of `X` and of `Y` to the same term, in which one name stands twice. -/
def twins : Bindings := (((empty.allocate 2).2.unify (.var "X" 0) doubled).1.unify (.var "Y" 1) doubled).1

/-- **A name finds its first argument only**, so a term in which one name stands twice does not even unify with
itself: `X` and `Y` do not unify, though both stand for that term. -/
theorem not_unify_doubled :
    (twins.Made ∧ twins.Acyclic ∧ Term.isRegular (.var "X" 0) = true ∧ Term.isRegular (.var "Y" 1) = true ∧
      RespectedBy (fun _ => doubled) twins ∧
      Term.subst (fun _ => doubled) (.var "X" 0) = Term.subst (fun _ => doubled) (.var "Y" 1)) ∧
    (twins.unify (.var "X" 0) (.var "Y" 1)).2 = false := by
  refine ⟨⟨((Made.empty.allocate 2).unify _ _).unify _ _, acyclic_of_slots (fun _ => 0) (by decide), rfl, rfl, ?_, rfl⟩,
    rfl⟩
  intro i t hi
  have hlt : i < 2 := lt_size_of_lookup? hi
  rcases i with _ | _ | i
  · obtain rfl := Option.some.inj hi
    rfl
  · obtain rfl := Option.some.inj hi
    rfl
  · omega

end Bindings

end Remedy
