import Remedy.Proofs.Bindings.Undo
import Remedy.Proofs.Term.Variables
/-!
# Proofs.Bindings.Inside — binding reaches no further than the variables it is given

Let the slots of a certain kind hold terms whose variables are of that kind.  Then following a term whose variables are
of that kind gives such a term again, and unifying such terms binds slots of that kind only, to terms of that kind; all
other slots are left alone (`binds_unifyAll`).  Often all slots hold such terms (`Inside`), and go on to do so
(`confined_unifyAll`).  The kind may be a bound, which says that no term refers to a slot that is missing, or it may
leave out one slot, which says that nothing refers to that slot.
-/
namespace Remedy.Bindings

variable {Q : Nat → Prop} {a b c : Bindings}

/-- **The variables in the terms that slots hold are of a certain kind.** -/
def Inside (Q : Nat → Prop) (b : Bindings) : Prop := ∀ i t, b.lookup? i = some t → t.Inside Q

/-- **A kind of slots is closed**: the variables in the terms that they hold are of that kind. -/
def Closed (Q : Nat → Prop) (b : Bindings) : Prop := ∀ i t, Q i → b.lookup? i = some t → t.Inside Q

theorem Inside.closed (h : b.Inside Q) : b.Closed Q := fun i t _ hi => h i t hi

def Equation.Inside (Q : Nat → Prop) : Equation → Prop
  | .pair s t => s.Inside Q ∧ t.Inside Q
  | .clash => True

/-- **Bindings have been made in slots of a certain kind**, to terms of that kind, and in slots that were there if all
of that kind were. -/
structure Binds (Q : Nat → Prop) (b c : Bindings) : Prop where
  keeps : c.Closed Q
  outside : ∀ i, ¬Q i → c.lookup? i = b.lookup? i
  size_eq : (∀ i, Q i → i < b.size) → c.size = b.size

theorem Binds.refl (h : b.Closed Q) : Binds Q b b := ⟨h, fun _ _ => rfl, fun _ => rfl⟩

theorem Binds.trans (hab : Binds Q a b) (hbc : Binds Q b c) : Binds Q a c := by
  refine ⟨hbc.keeps, fun i hi => (hbc.outside i hi).trans (hab.outside i hi), fun h => ?_⟩
  have hb := hab.size_eq h
  exact (hbc.size_eq (hb ▸ h)).trans hb

theorem binds_bind (h : b.Closed Q) {i : Nat} {t : Term} (hi : Q i) (ht : t.Inside Q) : Binds Q b (b.bind i t) := by
  refine ⟨fun j u hj hu => ?_, fun j hj => ?_, fun hQ => ?_⟩
  · rw [lookup?_bind] at hu
    by_cases hij : i = j
    · rw [if_pos hij] at hu
      cases hu
      exact ht
    · rw [if_neg hij] at hu
      exact h j u hj hu
  · have hij : i ≠ j := fun hij => hj (hij ▸ hi)
    rw [lookup?_bind, if_neg hij]
  · rw [size_bind]
    exact Nat.max_eq_left (hQ i hi)

structure Confined (Q : Nat → Prop) (b c : Bindings) : Prop where
  keeps : c.Inside Q
  outside : ∀ i, ¬Q i → c.lookup? i = b.lookup? i
  size_eq : (∀ i, Q i → i < b.size) → c.size = b.size

theorem Binds.confined (h : Binds Q b c) (hb : b.Inside Q) : Confined Q b c := by
  refine ⟨fun i t hi => ?_, h.outside, h.size_eq⟩
  by_cases hQ : Q i
  · exact h.keeps i t hQ hi
  · rw [h.outside i hQ] at hi
    exact hb i t hi

theorem Inside.allocate (h : b.Inside Q) (n : Nat) : (b.allocate n).2.Inside Q := by
  intro i t hi
  rw [lookup?_allocate] at hi
  exact h i t hi

/-! ## Terms -/

theorem Closed.walkFor (h : b.Closed Q) : ∀ (n : Nat) {t : Term}, t.Inside Q → (b.walkFor n t).Inside Q
  | 0, _, ht => ht
  | n + 1, .var name slot, ht => by
    unfold Bindings.walkFor
    split
    · rename_i u hu
      exact h.walkFor n (h slot u (ht _ List.mem_cons_self) hu)
    · exact ht
  | _ + 1, .const _, ht | _ + 1, .compound _ _, ht | _ + 1, .template _, ht | _ + 1, .nil, ht => ht

theorem Closed.walk (h : b.Closed Q) {t : Term} (ht : t.Inside Q) : (b.walk t).Inside Q := h.walkFor _ ht

theorem Inside.resolveFor (h : b.Inside Q) : ∀ (n : Nat) {t : Term}, t.Inside Q → (b.resolveFor n t).Inside Q
  | 0, _, ht => ht
  | n + 1, t, ht => by
    unfold Bindings.resolveFor
    split
    · exact ht
    · intro v hv
      rw [Term.mentions_bind] at hv
      obtain ⟨u, hu, hv⟩ := List.mem_flatMap.1 hv
      split at hv
      · rename_i s hs
        exact h.resolveFor n (h u.2 s hs) v hv
      · rcases List.mem_singleton.1 hv with rfl
        exact ht u hu

theorem Inside.resolve (h : b.Inside Q) {t : Term} (ht : t.Inside Q) : (b.resolve t).Inside Q := h.resolveFor _ ht

theorem Inside.resolveCall (h : b.Inside Q) {call : Call} (hc : call.Inside Q) : (b.resolveCall call).Inside Q := by
  intro v hv
  obtain ⟨_, hmem, hv⟩ := Term.mem_mentionsOf.1 hv
  obtain ⟨a, ha, rfl⟩ := List.mem_map.1 hmem
  exact h.resolve (hc.arg ha) v hv

/-- **What a term stands for has the variables of what its variables stand for.** -/
theorem mentions_resolve (b : Bindings) (t : Term) :
    (b.resolve t).mentions = t.mentions.flatMap fun v => (b.resolve (.var v.1 v.2)).mentions := by
  by_cases ht : t.isGround = true
  · unfold resolve Bindings.resolveFor
    rw [if_pos ht, Term.mentions_eq_nil ht, List.flatMap_nil]
  · have hb : b.resolve t = t.bind fun name slot => b.resolve (.var name slot) := by
      unfold resolve Bindings.resolveFor
      rw [if_neg ht]
      rfl
    rw [hb, Term.mentions_bind]

/-! ## Unification -/

theorem inside_namedEquations {goal : Call} (hg : goal.Inside Q) : ∀ {args : List (Arg Term)} {i : Nat},
    (∀ a ∈ args, a.value.Inside Q) → ∀ e ∈ namedEquations goal i args, e.Inside Q
  | [], _, _, _, he => nomatch he
  | a :: rest, i, ha, e, he => by
    obtain ⟨ha, hrest⟩ := List.forall_mem_cons.1 ha
    unfold namedEquations at he
    split at he
    · rename_i t ht
      rcases List.mem_cons.1 he with rfl | he
      · exact ⟨hg.get? ht, ha⟩
      · exact inside_namedEquations hg hrest e he
    · rcases List.mem_singleton.1 he with rfl
      trivial

theorem inside_callEquations {goal head : Call} (hg : goal.Inside Q) (hh : head.Inside Q) :
    ∀ e ∈ callEquations goal head, e.Inside Q := by
  intro e he
  have hclash : e ∈ [Equation.clash] → e.Inside Q := by
    intro h
    rcases List.mem_singleton.1 h with rfl
    trivial
  unfold callEquations at he
  split at he
  · exact hclash he
  · split at he
    · exact inside_namedEquations hg (fun _ ha => hh.arg ha) e he
    · split at he
      · exact hclash he
      · rw [← List.map_uncurry_zip_eq_zipWith] at he
        obtain ⟨⟨a, b⟩, hab, rfl⟩ := List.mem_map.1 he
        obtain ⟨ha, hb⟩ := List.of_mem_zip hab
        exact ⟨hg.arg ha, hh.arg hb⟩

theorem binds_unifyStep (h : b.Closed Q) {s t : Term} (hs : s.Inside Q) (ht : t.Inside Q) :
    Binds Q b (b.unifyStep s t).1 ∧ ∀ es, (b.unifyStep s t).2 = some es → ∀ e ∈ es, e.Inside Q := by
  have hvar : ∀ {name : String} {i : Nat}, (Term.var name i).Inside Q → Q i :=
    fun hi => hi _ List.mem_cons_self
  have hnone : ∀ es : List Equation, some [] = some es → ∀ e ∈ es, e.Inside Q := by
    intro es he
    cases he
    exact fun _ h => nomatch h
  unfold unifyStep
  split
  · split
    · exact ⟨.refl h, hnone⟩
    · exact ⟨binds_bind h (hvar hs) ht, hnone⟩
  · exact ⟨binds_bind h (hvar hs) ht, hnone⟩
  · exact ⟨binds_bind h (hvar ht) hs, hnone⟩
  · refine ⟨.refl h, fun es he => ?_⟩
    simp only at he
    split at he
    · exact hnone es he
    · cases he
  · exact ⟨.refl h, hnone⟩
  · refine ⟨.refl h, fun es he => ?_⟩
    cases he
    exact inside_callEquations hs ht
  · exact ⟨.refl h, fun es he => nomatch he⟩

/-- **Unifying equations of a certain kind binds slots of that kind**, however many of them are reached. -/
theorem binds_unifyFor : ∀ (n : Nat) {b : Bindings} {es : List Equation}, b.Closed Q → (∀ e ∈ es, e.Inside Q) →
    Binds Q b (unifyFor n b es).1 ∧ ∀ rest, (unifyFor n b es).2 = .left rest → ∀ e ∈ rest, e.Inside Q
  | 0, _, [], h, _ | _ + 1, _, [], h, _ => ⟨.refl h, fun _ he => nomatch he⟩
  | 0, _, e :: es, h, hes => ⟨.refl h, fun _ he => by cases he; exact hes⟩
  | _ + 1, _, .clash :: _, h, _ => ⟨.refl h, fun _ he => nomatch he⟩
  | n + 1, b, .pair s t :: rest, h, hes => by
    obtain ⟨⟨hs, ht⟩, hrest⟩ := List.forall_mem_cons.1 hes
    obtain ⟨hstep, hmore⟩ := binds_unifyStep h (h.walk hs) (h.walk ht)
    unfold unifyFor
    split
    · rename_i c more hc
      rw [hc] at hstep hmore
      have hall : ∀ e ∈ more ++ rest, e.Inside Q := List.forall_mem_append.2 ⟨hmore more rfl, hrest⟩
      obtain ⟨hnext, hleft⟩ := binds_unifyFor n hstep.keeps hall
      exact ⟨hstep.trans hnext, hleft⟩
    · rename_i c hc
      rw [hc] at hstep
      exact ⟨hstep, fun _ he => nomatch he⟩

/-- **Unifying equations of a closed kind leaves all other slots alone**, whether it succeeds or not. -/
theorem binds_unifyAll (h : b.Closed Q) {es : List Equation} (hes : ∀ e ∈ es, e.Inside Q) :
    Binds Q b (b.unifyAll es).1 := by
  obtain ⟨hfirst, hleft⟩ := binds_unifyFor usual h hes
  unfold unifyAll
  split
  · rename_i c success hc
    rw [hc] at hfirst
    exact hfirst
  · rename_i c left hc
    rw [hc] at hfirst hleft
    obtain ⟨hsecond, -⟩ := binds_unifyFor (c.enough left) hfirst.keeps (hleft left rfl)
    split
    · rename_i d success hd
      rw [hd] at hsecond
      exact hfirst.trans hsecond
    · rename_i d left' hd
      rw [hd] at hsecond
      exact hfirst.trans hsecond

theorem confined_unifyAll (h : b.Inside Q) {es : List Equation} (hes : ∀ e ∈ es, e.Inside Q) :
    Confined Q b (b.unifyAll es).1 := (binds_unifyAll h.closed hes).confined h

theorem confined_unify (h : b.Inside Q) {s t : Term} (hs : s.Inside Q) (ht : t.Inside Q) :
    Confined Q b (b.unify s t).1 := confined_unifyAll h (List.forall_mem_singleton.2 ⟨hs, ht⟩)

theorem confined_unifyCall (h : b.Inside Q) {goal head : Call} (hg : goal.Inside Q) (hh : head.Inside Q) :
    Confined Q b (b.unifyCall goal head).1 := confined_unifyAll h (inside_callEquations hg hh)

/-! ## A slot that nothing refers to -/

/-- **A slot is untouched**: its variable stands for nothing, and no term that a slot holds refers to it. -/
structure Untouched (b : Bindings) (x : Nat) : Prop where
  free : b.lookup? x = none
  unmentioned : b.Inside (· ≠ x)

theorem Untouched.confined {x : Nat} (h : b.Untouched x) (hc : Confined (· ≠ x) b c) : c.Untouched x :=
  ⟨(hc.outside x fun hne => hne rfl).trans h.free, hc.keeps⟩

theorem Untouched.allocate {x : Nat} (h : b.Untouched x) (n : Nat) : (b.allocate n).2.Untouched x :=
  ⟨(lookup?_allocate b n x).trans h.free, h.unmentioned.allocate n⟩

/-! ## No term refers to a slot beyond those there are

Bindings are in scope when every term that a slot holds refers to slots that exist.  Then following and resolving a
term that is in scope gives a term in scope, and unifying terms in scope binds slots that exist: the bindings stay in
scope, and there are as many slots as before (`inPlace_unifyAll`).
-/

/-- **Every term that a slot holds refers to slots there are.** -/
def Scoped (b : Bindings) : Prop := ∀ i t, b.lookup? i = some t → t.span ≤ b.size

theorem scoped_empty : empty.Scoped := by
  intro i t h
  rw [lookup?_eq_none (Nat.zero_le i)] at h
  cases h

theorem Scoped.allocate {b : Bindings} (h : b.Scoped) (n : Nat) : (b.allocate n).2.Scoped := by
  intro i t hi
  rw [lookup?_allocate] at hi
  have := h i t hi
  rw [size_allocate]
  omega

/-! ## Bindings in place -/

/-- **Bindings have been made in slots that were there**, by terms in scope. -/
structure InPlace (b c : Bindings) : Prop where
  keeps : c.Scoped
  size_eq : c.size = b.size

theorem scoped_iff {b : Bindings} : b.Scoped ↔ b.Inside (· < b.size) :=
  forall₃_congr fun _ _ _ => Term.span_le_iff

theorem Confined.inPlace {b c : Bindings} (h : Confined (· < b.size) b c) : InPlace b c := by
  have hsize := h.size_eq fun _ hi => hi
  refine ⟨scoped_iff.2 ?_, hsize⟩
  rw [hsize]
  exact h.keeps

theorem Scoped.untouched {b : Bindings} (h : b.Scoped) {x : Nat} (hx : b.size ≤ x) : b.Untouched x := by
  refine ⟨lookup?_eq_none hx, fun i t hi v hv => Nat.ne_of_lt ?_⟩
  exact Nat.lt_of_lt_of_le (scoped_iff.1 h i t hi v hv) hx

/-! ## Terms in scope -/

theorem Scoped.span_resolve {b : Bindings} (h : b.Scoped) {t : Term} (ht : t.span ≤ b.size) :
    (b.resolve t).span ≤ b.size := Term.span_le_iff.2 ((scoped_iff.1 h).resolve (Term.span_le_iff.1 ht))

theorem Scoped.span_resolveCall {b : Bindings} (h : b.Scoped) {c : Call} (hc : c.span ≤ b.size) :
    (b.resolveCall c).span ≤ b.size := Call.span_le_iff.2 ((scoped_iff.1 h).resolveCall (Call.span_le_iff.1 hc))

/-! ## Unification in scope -/

def Equation.Within (n : Nat) : Equation → Prop
  | .pair s t => s.span ≤ n ∧ t.span ≤ n
  | .clash => True

theorem within_iff {n : Nat} : ∀ {e : Equation}, e.Within n ↔ e.Inside (· < n)
  | .pair _ _ => and_congr Term.span_le_iff Term.span_le_iff
  | .clash => Iff.rfl

/-- **Unifying equations in scope makes no slots**, whether it succeeds or not. -/
theorem inPlace_unifyAll {b : Bindings} (h : b.Scoped) {es : List Equation} (hes : ∀ e ∈ es, e.Within b.size) :
    InPlace b (b.unifyAll es).1 :=
  (confined_unifyAll (scoped_iff.1 h) fun e he => within_iff.1 (hes e he)).inPlace

theorem inPlace_unify {b : Bindings} (h : b.Scoped) {s t : Term} (hs : s.span ≤ b.size) (ht : t.span ≤ b.size) :
    InPlace b (b.unify s t).1 :=
  (confined_unify (scoped_iff.1 h) (Term.span_le_iff.1 hs) (Term.span_le_iff.1 ht)).inPlace

theorem inPlace_unifyCall {b : Bindings} (h : b.Scoped) {goal head : Call} (hg : goal.span ≤ b.size)
    (hh : head.span ≤ b.size) : InPlace b (b.unifyCall goal head).1 :=
  (confined_unifyCall (scoped_iff.1 h) (Call.span_le_iff.1 hg) (Call.span_le_iff.1 hh)).inPlace

end Remedy.Bindings
