import Remedy.Proofs.Bindings.Positional
/-!
# Proofs.Bindings.Agreement — terms that have been unified resolve alike

If the equations that a step leaves hold of what their terms resolve to in the end, the equation that it took up holds
as well (`Step.agree`).  In the end there are none left, so the first one holds (`resolve_unify`).  Only names spoil
this: arguments of the goal that the head does not ask for are not compared (`not_alike_extra_arguments`).  That terms
which resolved alike go on to do so needs no condition, for a term resolves to what it resolved to before, resolved
again.
-/
namespace Remedy

/-- **Constants that pass for the same**: equal ones, and numbers of the same size. -/
def Value.Agrees (v w : Value) : Prop :=
  v = w ∨ (v == w) = true ∨ v.isNumeric = true ∧ w.isNumeric = true ∧ v.looselyEquals w = true

namespace Term

mutual

/-- **The two terms are the same**, except that constants at the same place may be related in some way only.  A variable
is known by its slot. -/
def Alike (R : Value → Value → Prop) : Term → Term → Prop
  | .const v, .const w => R v w
  | .var _ i, .var _ j => i = j
  | .compound f as, .compound g bs => f = g ∧ AlikeArgs R as bs
  | .template e, .template d => e = d
  | .nil, .nil => True
  | _, _ => False

def AlikeArgs (R : Value → Value → Prop) : List (Arg Term) → List (Arg Term) → Prop
  | [], [] => True
  | a :: as, b :: bs => a.name = b.name ∧ Alike R a.value b.value ∧ AlikeArgs R as bs
  | _, _ => False

end

variable {R : Value → Value → Prop}

mutual

theorem Alike.refl (hR : ∀ v, R v v) : ∀ t : Term, Alike R t t
  | .const v => hR v
  | .var _ _ | .template _ => rfl
  | .compound _ args => ⟨rfl, AlikeArgs.refl hR args⟩
  | .nil => trivial

theorem AlikeArgs.refl (hR : ∀ v, R v v) : ∀ args : List (Arg Term), AlikeArgs R args args
  | [] => trivial
  | a :: rest => ⟨rfl, Alike.refl hR a.value, AlikeArgs.refl hR rest⟩

end

mutual

theorem Alike.bind {f g : String → Nat → Term} (hfg : ∀ name name' i, Alike R (f name i) (g name' i)) :
    ∀ {s t : Term}, Alike R s t → Alike R (s.bind f) (t.bind g)
  | .const _, .const _, h => h
  | .var n i, .var m j, h => by
    obtain rfl : i = j := h
    exact hfg n m i
  | .compound _ _, .compound _ _, ⟨hf, hargs⟩ => ⟨hf, AlikeArgs.bindArgs hfg hargs⟩
  | .template _, .template _, h => h
  | .nil, .nil, _ => trivial

theorem AlikeArgs.bindArgs {f g : String → Nat → Term} (hfg : ∀ name name' i, Alike R (f name i) (g name' i)) :
    ∀ {as bs : List (Arg Term)}, AlikeArgs R as bs → AlikeArgs R (bindArgs f as) (Term.bindArgs g bs)
  | [], [], _ => trivial
  | _ :: _, _ :: _, ⟨hname, ha, hrest⟩ => ⟨hname, Alike.bind hfg ha, AlikeArgs.bindArgs hfg hrest⟩

end

end Term

namespace Bindings

variable {b c d : Bindings} {s t : Term} {es fs more : List Equation} {n : Nat} {as bs : List (Arg Term)}

theorem agrees_of_constsAgree {v w : Value} (h : constsAgree v w = true) : v.Agrees w := by
  simpa [Value.Agrees, constsAgree, and_assoc] using Or.inr h

theorem agrees_refl (v : Value) : v.Agrees v := .inl rfl

def Equation.Agree (d : Bindings) : Equation → Prop
  | .pair s t => (d.resolve s).Alike Value.Agrees (d.resolve t)
  | .clash => False

theorem agree_pair : (Equation.pair s t).Agree d ↔ (d.resolve s).Alike Value.Agrees (d.resolve t) := Iff.rfl

theorem alike_resolve_var {R : Value → Value → Prop} (hR : ∀ v, R v v) (hd : d.Acyclic) (name name' : String)
    (i : Nat) : (d.resolve (.var name i)).Alike R (d.resolve (.var name' i)) := by
  cases hi : d.lookup? i with
  | none =>
    rw [resolve_free hi, resolve_free hi]
    exact rfl
  | some u =>
    rw [hd.resolve_var name hi, hd.resolve_var name' hi]
    exact .refl hR _

/-- **What has been alike stays alike**: resolving it again replaces the same variables by the same terms. -/
theorem alike_resolve {R : Value → Value → Prop} (hR : ∀ v, R v v) (hbd : Extends b d) (hd : d.Acyclic)
    (h : (b.resolve s).Alike R (b.resolve t)) : (d.resolve s).Alike R (d.resolve t) := by
  rw [← hd.resolve_resolve hbd s, ← hd.resolve_resolve hbd t, resolve_bind d (b.resolve s),
    resolve_bind d (b.resolve t)]
  exact h.bind fun name name' i => alike_resolve_var hR hd name name' i

theorem alikeArgs_of_agree : ∀ {as bs : List (Arg Term)}, (∀ a ∈ as, a.name = none) → (∀ a ∈ bs, a.name = none) →
    as.length = bs.length → (∀ e ∈ List.zipWith (fun a b => .pair a.value b.value) as bs, Equation.Agree d e) →
      Term.AlikeArgs Value.Agrees (as.map fun a => ⟨a.name, d.resolve a.value⟩)
        (bs.map fun a => ⟨a.name, d.resolve a.value⟩)
  | [], [], _, _, _, _ => trivial
  | a :: as, b :: bs, has, hbs, hl, h => by
    obtain ⟨ha, has⟩ := List.forall_mem_cons.1 has
    obtain ⟨hb, hbs⟩ := List.forall_mem_cons.1 hbs
    obtain ⟨hab, hrest⟩ := List.forall_mem_cons.1 h
    exact ⟨ha.trans hb.symm, hab, alikeArgs_of_agree has hbs (Nat.succ.inj hl) hrest⟩

/-- **Two terms resolve alike if what is left of them does.** -/
theorem Meets.agree (h : Meets b s t c more) (hs : s.isPositional = true) (ht : t.isPositional = true)
    (hcd : Extends c d) (hd : d.Acyclic) (hmore : ∀ e ∈ more, e.Agree d) : (Equation.pair s t).Agree d := by
  have hself : ∀ u, Equation.Agree d (.pair u u) := fun u => .refl agrees_refl _
  cases h with
  -- two variables of one slot may differ in their names
  | same name name' i => exact alike_resolve_var agrees_refl hd name name' i
  | @left name i t hi =>
    have hlookup : d.lookup? i = some t := hcd.lookup?_eq (by rw [lookup?_bind, if_pos rfl])
    rw [agree_pair, hd.resolve_var name hlookup]
    exact hself t
  | @right name j s hj =>
    have hlookup : d.lookup? j = some s := hcd.lookup?_eq (by rw [lookup?_bind, if_pos rfl])
    rw [agree_pair, hd.resolve_var name hlookup]
    exact hself s
  | consts h => exact agrees_of_constsAgree h
  | nils => exact hself .nil
  | compounds f g as bs =>
    have has := fun a ha => (Term.isUnnamed_compound.1 hs a ha).1
    have hbs := fun a ha => (Term.isUnnamed_compound.1 ht a ha).1
    rw [callEquations_unnamed has hbs] at hmore
    split at hmore
    · rename_i heq
      obtain ⟨rfl, hl⟩ := heq
      rw [agree_pair, resolve_compound, resolve_compound]
      exact ⟨rfl, alikeArgs_of_agree has hbs hl hmore⟩
    · exact (hmore .clash List.mem_cons_self).elim

/-- **The equations before a step hold if those after it do.** -/
theorem Step.agree {P : Term → Prop} (hP : ∀ t, P t → t.isPositional = true) (hb : b.Sound) (hshut : Shut P b)
    (hes : ∀ e ∈ es, e.Both P) (h : Step b es c fs) (hcd : Extends c d) (hd : d.Acyclic) (hfs : ∀ e ∈ fs, e.Agree d) :
    ∀ e ∈ es, e.Agree d := by
  obtain ⟨s, t, more, rest, rfl, rfl, hmeets⟩ := h.exists_meets hb
  obtain ⟨⟨hs, ht⟩, -⟩ := List.forall_mem_cons.1 hes
  obtain ⟨hmore, hrest⟩ := List.forall_mem_append.1 hfs
  have hagree := hmeets.agree (hP _ (hshut.walk hs)) (hP _ (hshut.walk ht)) hcd hd hmore
  have hbd := hmeets.extends.trans hcd
  rw [agree_pair, hd.resolve_walk hbd, hd.resolve_walk hbd] at hagree
  exact List.forall_mem_cons.2 ⟨hagree, hrest⟩

theorem Steps.agree {P : Term → Prop} (hP : ∀ t, P t → t.isPositional = true) (hb : b.Sound) (hshut : Shut P b)
    (hes : ∀ e ∈ es, e.Both P) (h : Steps n b es c fs) (hcd : Extends c d) (hd : d.Acyclic)
    (hfs : ∀ e ∈ fs, e.Agree d) : ∀ e ∈ es, e.Agree d := by
  induction h with
  | refl => exact hfs
  | cons hstep hrest ih =>
    have hc := Extends.trans hb (hstep.extends hb)
    obtain ⟨hshut', hes'⟩ := hstep.shut hb hshut hes
    exact hstep.agree hP hb hshut hes ((hrest.extends hc).trans hcd) hd (ih hc hshut' hes' hcd hfs)

/-- **Terms that have been unified resolve alike**, if there are no names in them and in what they lead to, and no
variable has come to lead back to itself.  What was bound still is, and what resolved alike before still does. -/
theorem resolve_unify (hb : b.Made) (hs : s.isPositional = true) (ht : t.isPositional = true)
    (hheld : ∀ i u, b.Reaches [s, t] i → b.lookup? i = some u → u.isPositional = true)
    (h : b.unify s t = (c, true)) (hc : c.Acyclic) :
    (c.resolve s).Alike Value.Agrees (c.resolve t) ∧ (∀ i u, b.lookup? i = some u → c.lookup? i = some u) ∧
      ∀ R : Value → Value → Prop, (∀ v, R v v) → ∀ u v : Term, (b.resolve u).Alike R (b.resolve v) →
        (c.resolve u).Alike R (c.resolve v) := by
  have hbc : Extends b c := by
    have hext := extends_unify hb.sound s t
    rwa [h] at hext
  refine ⟨?_, fun i u hi => hbc.lookup?_eq hi, fun R hR u v huv => alike_resolve hR hbc hc huv⟩
  have hall : b.unifyAll [.pair s t] = (c, true) := h
  obtain ⟨n, fs, hsteps, hend⟩ := exists_steps_unifyAll b [.pair s t]
  rw [hall, if_pos rfl] at hend
  rw [hall] at hsteps
  subst hend
  exact hsteps.agree (fun _ hu => hu.1) hb.sound (shut_unnamed hheld) (both_unnamed hs ht) .refl hc
    (fun _ he => nomatch he) _ List.mem_cons_self

/-- The binding of `X` to `f(1, ?Y)`. -/
def nested : Bindings :=
  ((empty.allocate 2).2.unify (.var "X" 0) (.compound "f" (positional [.const (.int 1), .var "Y" 1]))).1

theorem made_nested : nested.Made := (Made.empty.allocate 2).unify _ _

/-- What `X` stands for is unified with `f(1, 2)`: a variable in a term that is bound already is bound. -/
theorem resolve_unify_nested :
    ((nested.unify (.var "X" 0) (.compound "f" (positional [.const (.int 1), .const (.int 2)]))).2 = true ∧
      (nested.unify (.var "X" 0) (.compound "f" (positional [.const (.int 1), .const (.int 2)]))).1.Acyclic) ∧
    ((nested.unify (.var "X" 0) (.compound "f" (positional [.const (.int 1), .const (.int 2)]))).1.resolve
      (.var "X" 0)).Alike Value.Agrees (.compound "f" (positional [.const (.int 1), .const (.int 2)])) := by
  generalize hc : nested.unify (.var "X" 0) (.compound "f" (positional [.const (.int 1), .const (.int 2)])) = p
  have hsuccess : p.2 = true := by
    rw [← hc]
    rfl
  have hacyclic : p.1.Acyclic := by
    rw [← hc]
    exact acyclic_of_slots (fun i => 1 - i) (by decide)
  obtain ⟨c, _⟩ := p
  obtain rfl := hsuccess
  exact ⟨⟨rfl, hacyclic⟩,
    (resolve_unify made_nested rfl rfl (fun i u _ hi => held_of_all rfl hi) hc hacyclic).1⟩

/-- The bindings of `X` to `f(a: 1, b: 2)` and of `Y` to `f(a: 1)`. -/
def overlong : Bindings :=
  let first := (empty.allocate 2).2.unify (.var "X" 0)
    (.compound "f" [⟨some "a", .const (.int 1)⟩, ⟨some "b", .const (.int 2)⟩])
  (first.1.unify (.var "Y" 1) (.compound "f" [⟨some "a", .const (.int 1)⟩])).1

/-- **An argument that the head does not ask for is not compared**: `X` and `Y` are unified and stay what they are. -/
theorem not_alike_extra_arguments :
    (overlong.Made ∧ Term.isPositional (.var "X" 0) = true ∧ Term.isPositional (.var "Y" 1) = true ∧
      overlong.unify (.var "X" 0) (.var "Y" 1) = (overlong, true) ∧ overlong.Acyclic) ∧
    ¬(overlong.resolve (.var "X" 0)).Alike Value.Agrees (overlong.resolve (.var "Y" 1)) := by
  refine ⟨⟨((Made.empty.allocate 2).unify _ _).unify _ _, rfl, rfl, rfl, ?_⟩, fun h => h.2.2.2⟩
  exact acyclic_of_slots (fun _ => 0) (by decide)

end Bindings

end Remedy
