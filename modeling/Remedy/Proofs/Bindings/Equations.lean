import Remedy.Proofs.Bindings.Undo
import Remedy.Proofs.Term.Variables
/-!
# Proofs.Bindings.Equations — unification, equation by equation

Unification takes up one equation after the other and puts the equations of the arguments in its place.  So it does to
a list of equations what it does to the first part of it and then to the rest (`Solves.append`), and it fails as soon
as it fails on a part (`Clashes.append_right`).  What has to be known of each part is how many steps it takes at most;
the steps that unification has are far more than the heads of rules need (`unifyAll_of_solves`).
-/
namespace Remedy

/-! ## Arguments without names -/

def positional (ts : List Term) : List (Arg Term) := ts.map fun t => ⟨none, t⟩

namespace Term

/-- Variables with the given names, whose slots follow each other from `n` on. -/
def vars : List String → Nat → List Term
  | [], _ => []
  | name :: rest, n => .var name n :: vars rest (n + 1)

theorem length_vars : ∀ (names : List String) (n : Nat), (vars names n).length = names.length
  | [], _ => rfl
  | _ :: rest, n => congrArg (· + 1) (length_vars rest (n + 1))

theorem bindArgs_positional (f : String → Nat → Term) : ∀ ts : List Term,
    bindArgs f (positional ts) = positional (ts.map (bind f))
  | [] => rfl
  | t :: ts => by
    have h := bindArgs_positional f ts
    unfold positional at h ⊢
    rw [List.map_cons, bindArgs, h]
    rfl

theorem offset_eq (base : Nat) (t : Term) : t.offset base = t.bind fun name slot => .var name (slot + base) := by
  unfold offset
  split
  · rename_i h
    exact (bind_of_isGround _ h).symm
  · rfl

theorem offset_cell (base : Nat) (head tail : Term) :
    (cell head tail).offset base = .cell (head.offset base) (tail.offset base) := by
  rw [offset_eq, offset_eq, offset_eq]
  rfl

theorem vars_offset (base : Nat) : ∀ (names : List String) (n : Nat),
    (vars names n).map (offset base) = vars names (n + base)
  | [], _ => rfl
  | name :: rest, n => by
    rw [vars, List.map_cons, vars_offset base rest (n + 1), vars, Nat.add_right_comm]
    rfl

theorem instantiateArgs_vars (env : Expr.Env) (base : Nat) : ∀ (names : List String) (n : Nat),
    instantiateArgs env base (positional (vars names n)) = .ok (positional (vars names (n + base)))
  | [], _ => rfl
  | name :: rest, n => by
    have h := instantiateArgs_vars env base rest (n + 1)
    unfold positional at h ⊢
    rw [vars, List.map_cons, instantiateArgs, h, Nat.add_right_comm]
    rfl

theorem areGround_positional : ∀ {ts : List Term}, (∀ t ∈ ts, t.isGround = true) → areGround (positional ts) = true
  | [], _ => rfl
  | t :: ts, h => by
    obtain ⟨ht, hts⟩ := List.forall_mem_cons.1 h
    have hrest := areGround_positional hts
    unfold positional at hrest ⊢
    rw [List.map_cons, areGround, ht, hrest]
    rfl

end Term

theorem Call.offset_positional (base : Nat) (f : String) (ts : List Term) :
    (⟨f, positional ts⟩ : Call).offset base = ⟨f, positional (ts.map (Term.offset base))⟩ := by
  have hargs : ts.map (Term.offset base) = ts.map (Term.bind fun name slot => .var name (slot + base)) :=
    List.map_congr_left fun t _ => Term.offset_eq base t
  rw [hargs, ← Term.bindArgs_positional]
  unfold offset
  split
  · rename_i h
    rw [Term.bindArgs_of_areGround _ h]
  · rfl

namespace Bindings

variable {b c d : Bindings} {es fs : List Equation} {k l : Nat}

/-! ## What more bindings leave as it was -/

theorem Extends.lookup?_eq (h : Extends b c) {i : Nat} {t : Term} (hi : b.lookup? i = some t) :
    c.lookup? i = some t := by
  induction h with
  | refl => exact hi
  | allocate _ n ih => rw [lookup?_allocate, ih]
  | bind _ j u hj _ ih =>
    have hne : j ≠ i := fun e => by
      rw [e, ih] at hj
      cases hj
    rw [lookup?_bind, if_neg hne, ih]

theorem Extends.walkFor_eq (h : Extends b c) : ∀ {n : Nat} {t : Term}, (b.walkFor n t).isVar = false →
    c.walkFor n t = b.walkFor n t
  | 0, _, _ => rfl
  | n + 1, .var name i, ht => by
    unfold walkFor at ht ⊢
    cases hi : b.lookup? i with
    | none =>
      rw [hi] at ht
      cases ht
    | some u =>
      rw [hi] at ht
      rw [h.lookup?_eq hi]
      exact h.walkFor_eq ht
  | _ + 1, .const _, _ | _ + 1, .compound _ _, _ | _ + 1, .template _, _ | _ + 1, .nil, _ => rfl

/-- **A term that stands for something goes on standing for it.** -/
theorem Extends.walk_eq (h : Extends b c) {t : Term} (ht : (b.walk t).isVar = false) : c.walk t = b.walk t := by
  have hw : c.walkFor b.slots.size t = b.walk t := h.walkFor_eq ht
  have hended : c.Ended (c.walkFor b.slots.size t) := by
    intro name j e
    rw [← hw, e] at ht
    cases ht
  have hle : b.slots.size ≤ c.slots.size := h.size_le
  unfold walk at hw ⊢
  rw [walkFor_of_le hended hle, hw]

theorem walk_of_not_isVar {t : Term} (h : t.isVar = false) : b.walk t = t :=
  walkFor_of_ended (fun _ _ e => by rw [e] at h; cases h) _

theorem map_walk {ts : List Term} (h : ∀ t ∈ ts, t.isVar = false) : ts.map b.walk = ts :=
  (List.map_congr_left fun t ht => walk_of_not_isVar (h t ht)).trans (List.map_id ts)

theorem walk_of_free {name : String} {i : Nat} (h : b.lookup? i = none) : b.walk (.var name i) = .var name i :=
  walkFor_of_ended (fun _ _ e => by cases e; exact h) _

theorem lt_size_of_lookup? {i : Nat} {t : Term} (h : b.lookup? i = some t) : i < b.size := by
  refine Nat.lt_of_not_le fun hle => ?_
  rw [lookup?_eq_none hle] at h
  cases h

theorem walk_of_bound {name : String} {i : Nat} {t : Term} (h : b.lookup? i = some t) (ht : t.isVar = false) :
    b.walk (.var name i) = t := by
  have hpos : b.slots.size ≠ 0 := Nat.ne_of_gt (Nat.lt_of_le_of_lt (Nat.zero_le i) (lt_size_of_lookup? h))
  obtain ⟨n, hn⟩ := Nat.exists_eq_succ_of_ne_zero hpos
  unfold walk
  rw [hn, walkFor, h]
  exact walkFor_of_ended (fun _ _ e => by rw [e] at ht; cases ht) _

/-! ## Parts of a list of equations -/

/-- **Unification solves equations**: in at most `k` steps it has unified them, whatever comes after them. -/
def Solves (k : Nat) (b : Bindings) (es : List Equation) (c : Bindings) : Prop :=
  ∀ n rest, ∃ m, n ≤ m ∧ unifyFor (n + k) b (es ++ rest) = unifyFor m c rest

/-- **Equations clash**: in at most `k` steps unification has failed, whatever comes after them. -/
def Clashes (k : Nat) (b : Bindings) (es : List Equation) : Prop :=
  ∀ n rest, ∃ c, unifyFor (n + k) b (es ++ rest) = (c, .done false)

theorem solves_nil : Solves 0 b [] b := fun n _ => ⟨n, Nat.le_refl n, rfl⟩

theorem Solves.mono (h : Solves k b es c) (hkl : k ≤ l) : Solves l b es c := by
  intro n rest
  obtain ⟨m, hm, hu⟩ := h (n + (l - k)) rest
  refine ⟨m, by omega, ?_⟩
  rw [← hu]
  congr 1
  omega

theorem Clashes.mono (h : Clashes k b es) (hkl : k ≤ l) : Clashes l b es := by
  intro n rest
  obtain ⟨c, hu⟩ := h (n + (l - k)) rest
  refine ⟨c, ?_⟩
  rw [← hu]
  congr 1
  omega

theorem Solves.append (h : Solves k b es c) (h' : Solves l c fs d) : Solves (k + l) b (es ++ fs) d := by
  intro n rest
  obtain ⟨m, hm, hu⟩ := h (n + l) (fs ++ rest)
  obtain ⟨m', hm', hu'⟩ := h' (m - l) rest
  rw [Nat.sub_add_cancel (by omega)] at hu'
  refine ⟨m', by omega, ?_⟩
  rw [List.append_assoc, ← hu', ← hu]
  congr 1
  omega

theorem Solves.cons {e : Equation} (h : Solves k b [e] c) (h' : Solves l c es d) : Solves (k + l) b (e :: es) d :=
  h.append h'

theorem Solves.clashes (h : Solves k b es c) (h' : Clashes l c fs) : Clashes (k + l) b (es ++ fs) := by
  intro n rest
  obtain ⟨m, hm, hu⟩ := h (n + l) (fs ++ rest)
  obtain ⟨d, hd⟩ := h' (m - l) rest
  rw [Nat.sub_add_cancel (by omega)] at hd
  refine ⟨d, ?_⟩
  rw [List.append_assoc, ← hd, ← hu]
  congr 1
  omega

theorem Clashes.append_right (h : Clashes k b es) (fs : List Equation) : Clashes k b (es ++ fs) := by
  intro n rest
  rw [List.append_assoc]
  exact h n (fs ++ rest)

theorem unifyAll_of_solves (h : Solves k b es c) (hk : k ≤ usual) : b.unifyAll es = (c, true) := by
  obtain ⟨m, -, hu⟩ := h (usual - k) []
  rw [Nat.sub_add_cancel hk, List.append_nil, unifyFor] at hu
  unfold unifyAll
  rw [hu]

theorem unifyAll_of_clashes (h : Clashes k b es) (hk : k ≤ usual) : (b.unifyAll es).2 = false := by
  obtain ⟨c, hu⟩ := h (usual - k) []
  rw [Nat.sub_add_cancel hk, List.append_nil] at hu
  unfold unifyAll
  rw [hu]

/-! ## One equation -/

variable {s t : Term}

/-- **An equation is solved if those are that it leaves.** -/
theorem solves_pair (hstep : b.unifyStep (b.walk s) (b.walk t) = (c, some es)) (h : Solves k c es d) :
    Solves (k + 1) b [.pair s t] d := by
  intro n rest
  obtain ⟨m, hm, hu⟩ := h n rest
  refine ⟨m, hm, ?_⟩
  rw [← Nat.add_assoc, List.singleton_append, unifyFor, hstep]
  exact hu

theorem clashes_pair (hstep : b.unifyStep (b.walk s) (b.walk t) = (c, some es)) (h : Clashes k c es) :
    Clashes (k + 1) b [.pair s t] := by
  intro n rest
  obtain ⟨d, hu⟩ := h n rest
  refine ⟨d, ?_⟩
  rw [← Nat.add_assoc, List.singleton_append, unifyFor, hstep]
  exact hu

theorem clashes_of_step (hstep : b.unifyStep (b.walk s) (b.walk t) = (c, none)) : Clashes 1 b [.pair s t] := by
  intro n rest
  refine ⟨c, ?_⟩
  rw [List.singleton_append, unifyFor, hstep]

/-- **An unbound variable of a head gets what the argument stands for.** -/
theorem solves_fresh {name : String} {i : Nat} (hs : (b.walk s).isVar = false) (hi : b.lookup? i = none) :
    Solves 1 b [.pair s (.var name i)] (b.bind i (b.walk s)) := by
  refine solves_pair ?_ solves_nil
  rw [walk_of_free hi]
  cases hw : b.walk s with
  | var n j =>
    rw [hw] at hs
    cases hs
  | const _ | compound _ _ | template _ | nil => rfl

/-- **An unbound variable of a goal gets what stands in the head.** -/
theorem solves_open {name : String} {j : Nat} (hj : b.lookup? j = none) (ht : t.isVar = false) :
    Solves 1 b [.pair (.var name j) t] (b.bind j t) := by
  refine solves_pair ?_ solves_nil
  rw [walk_of_free hj, walk_of_not_isVar ht]
  cases t with
  | var n i => cases ht
  | const _ | compound _ _ | template _ | nil => rfl

theorem solves_nils (hs : b.walk s = .nil) : Solves 1 b [.pair s .nil] b := by
  refine solves_pair ?_ solves_nil
  rw [hs, walk_of_not_isVar rfl]
  rfl

theorem extends_bind {i : Nat} (hi : b.lookup? i = none) (ht : t.isVar = false) : Extends b (b.bind i t) :=
  Extends.refl.bind i t hi fun _ _ e => by
    rw [e] at ht
    cases ht

/-! ## Compound terms and calls -/

/-- **Calls without names are unified argument by argument.** -/
theorem callEquations_positional (f : String) {ts us : List Term} (h : ts.length = us.length) :
    callEquations ⟨f, positional ts⟩ ⟨f, positional us⟩ = List.zipWith .pair ts us := by
  have hnames : ∀ l : List Term, (⟨f, positional l⟩ : Call).hasNames = false := by
    intro l
    unfold Call.hasNames positional
    rw [List.any_map]
    exact List.any_eq_false.2 fun _ _ h => nomatch h
  have harity : ∀ l : List Term, (⟨f, positional l⟩ : Call).arity = l.length := fun l => List.length_map _
  unfold callEquations
  rw [if_neg (not_not_intro rfl), hnames, hnames, if_neg Bool.noConfusion, harity, harity, if_neg (not_not_intro h)]
  unfold positional
  rw [List.zipWith_map]

theorem unifyStep_compound (f : String) {ts us : List Term} (h : ts.length = us.length) :
    b.unifyStep (.compound f (positional ts)) (.compound f (positional us)) =
      (b, some (List.zipWith .pair ts us)) := by
  rw [← callEquations_positional f h]
  rfl

theorem solves_compound {f : String} {ts us : List Term} (hs : b.walk s = .compound f (positional ts))
    (hl : ts.length = us.length) (h : Solves k b (List.zipWith .pair ts us) c) :
    Solves (k + 1) b [.pair s (.compound f (positional us))] c :=
  solves_pair (by rw [hs, walk_of_not_isVar rfl, unifyStep_compound f hl]) h

theorem clashes_compound {f : String} {ts us : List Term} (hs : b.walk s = .compound f (positional ts))
    (hl : ts.length = us.length) (h : Clashes k b (List.zipWith .pair ts us)) :
    Clashes (k + 1) b [.pair s (.compound f (positional us))] :=
  clashes_pair (by rw [hs, walk_of_not_isVar rfl, unifyStep_compound f hl]) h

/-! ## Fresh variables -/

/-- **Slots that follow each other hold the given terms.** -/
def Holds (b : Bindings) : Nat → List Term → Prop
  | _, [] => True
  | n, t :: ts => b.lookup? n = some t ∧ b.Holds (n + 1) ts

theorem Holds.kept (h : Extends b c) : ∀ {ts : List Term} {n : Nat}, b.Holds n ts → c.Holds n ts
  | [], _, _ => trivial
  | _ :: _, _, ⟨ht, hts⟩ => ⟨h.lookup?_eq ht, Holds.kept h hts⟩

theorem Holds.walk_vars : ∀ {ts : List Term} {names : List String} {n : Nat}, b.Holds n ts →
    names.length = ts.length → (∀ t ∈ ts, t.isVar = false) → (Term.vars names n).map b.walk = ts
  | [], [], _, _, _, _ => rfl
  | t :: ts, name :: names, n, ⟨ht, hts⟩, hl, hv => by
    obtain ⟨hvt, hvts⟩ := List.forall_mem_cons.1 hv
    rw [Term.vars, List.map_cons, walk_of_bound ht hvt, hts.walk_vars (Nat.succ.inj hl) hvts]

/-- **The fresh variables of a head get what the arguments stand for**, and no other slot changes. -/
theorem exists_solves_vars : ∀ {ts ps : List Term} {names : List String} {n : Nat} {b : Bindings},
    ts.map b.walk = ps → (∀ p ∈ ps, p.isVar = false) → names.length = ts.length →
      (∀ i, n ≤ i → i < n + names.length → b.lookup? i = none) →
      ∃ c, Solves names.length b (List.zipWith .pair ts (Term.vars names n)) c ∧ Extends b c ∧ c.Holds n ps ∧
        ∀ i, i < n ∨ n + names.length ≤ i → c.lookup? i = b.lookup? i
  | [], _, [], _, b, rfl, _, _, _ => ⟨b, solves_nil, .refl, trivial, fun _ _ => rfl⟩
  | t :: ts, _, name :: names, n, b, rfl, hv, hl, hfree => by
    obtain ⟨hvt, hvts⟩ := List.forall_mem_cons.1 hv
    rw [List.length_cons] at hfree ⊢
    have hn : b.lookup? n = none := hfree n (Nat.le_refl n) (by omega)
    have hext := extends_bind hn hvt
    have hwalk : ts.map (b.bind n (b.walk t)).walk = ts.map b.walk :=
      List.map_congr_left fun u hu => hext.walk_eq (hvts _ (List.mem_map_of_mem hu))
    have hfree' : ∀ i, n + 1 ≤ i → i < n + 1 + names.length → (b.bind n (b.walk t)).lookup? i = none := by
      intro i hlo hhi
      rw [lookup?_bind, if_neg (by omega)]
      exact hfree i (by omega) (by omega)
    obtain ⟨c, hc, hce, hholds, hrest⟩ := exists_solves_vars hwalk hvts (Nat.succ.inj hl) hfree'
    refine ⟨c, ?_, hext.trans hce, ⟨hce.lookup?_eq ?_, hholds⟩, fun i hi => ?_⟩
    · rw [Nat.add_comm]
      exact (solves_fresh hvt hn).cons hc
    · rw [lookup?_bind, if_pos rfl]
    · rw [hrest i (by omega), lookup?_bind, if_neg (by omega)]

/-! ## Reading off what variables stand for -/

theorem resolveFor_of_isGround (b : Bindings) {t : Term} (h : t.isGround = true) : ∀ n, b.resolveFor n t = t
  | 0 => rfl
  | n + 1 => by
    unfold resolveFor
    rw [if_pos h]

theorem resolveFor_var (b : Bindings) (n : Nat) (name : String) {i : Nat} {t : Term} (h : b.lookup? i = some t) :
    b.resolveFor (n + 1) (.var name i) = b.resolveFor n t := by
  rw [resolveFor, if_neg Bool.noConfusion, Term.bind, h]

/-- **A term is resolved by resolving its variables.** -/
theorem resolveFor_eq (b : Bindings) (n : Nat) (t : Term) :
    b.resolveFor (n + 1) t = t.bind fun name slot => b.resolveFor (n + 1) (.var name slot) := by
  by_cases h : t.isGround = true
  · rw [resolveFor_of_isGround b h, Term.bind_of_isGround _ h]
  · rw [resolveFor, if_neg h]
    refine congrArg (fun f => t.bind f) (funext fun name => funext fun slot => ?_)
    rw [resolveFor]
    exact (if_neg Bool.noConfusion).symm

theorem resolveFor_compound (b : Bindings) (n : Nat) (f : String) (ts : List Term) :
    b.resolveFor (n + 1) (.compound f (positional ts)) =
      .compound f (positional (ts.map (b.resolveFor (n + 1)))) := by
  rw [resolveFor_eq, Term.bind, Term.bindArgs_positional]
  congr 2
  exact List.map_congr_left fun t _ => (resolveFor_eq b n t).symm

theorem resolveFor_cell (b : Bindings) (n : Nat) (head tail : Term) : b.resolveFor (n + 1) (.cell head tail) =
    .cell (b.resolveFor (n + 1) head) (b.resolveFor (n + 1) tail) := b.resolveFor_compound n _ [head, tail]

/-- **Variables of slots that hold terms without variables** are replaced by these terms. -/
theorem Holds.resolve_vars : ∀ {ts : List Term} {names : List String} {n : Nat}, b.Holds n ts →
    names.length = ts.length → (∀ t ∈ ts, t.isGround = true) → ∀ k,
      (Term.vars names n).map (b.resolveFor (k + 1)) = ts
  | [], [], _, _, _, _, _ => rfl
  | t :: ts, name :: names, n, ⟨ht, hts⟩, hl, hg, k => by
    obtain ⟨hgt, hgts⟩ := List.forall_mem_cons.1 hg
    rw [Term.vars, List.map_cons, resolveFor_var b k name ht, resolveFor_of_isGround b hgt,
      hts.resolve_vars (Nat.succ.inj hl) hgts]

end Bindings

end Remedy
