import Remedy.Proofs.Bindings.Equations
/-!
# Proofs.Bindings.Meaning — what a term stands for, however many variables lead there

A term denotes a ground term if this is what comes of it when its variables are followed far enough (`Denotes`).  More
bindings leave it at that, and so does following the variable at the front of it.  How far is far enough never matters:
a term that needs `n` rounds leads through `n` different slots, because a slot that is reached in an earlier round needs
more rounds itself than one that is reached in a later round.  So there are as many rounds as slots at most, and
`resolve` makes one more than that (`Denotes.resolve_eq`).

An argument of a call is given if it denotes a term, by whatever variables, and open if it is a variable that stands for
nothing yet.  What the head of a rule makes of it depends on what it has in this place: a fresh variable takes over what
is given, a cell takes a list apart, and what is open is bound to what the head has.  Each of these equations is said to
be taken up together with the slots that it may bind (`Takes`), so that the equations of a head follow from those of its
arguments (`Takes.append`).
-/
namespace Remedy

namespace Term

mutual

theorem bind_var : ∀ t : Term, t.bind .var = t
  | .const _ | .var _ _ | .template _ | .nil => rfl
  | .compound functor args => congrArg (Term.compound functor) (bindArgs_var args)

theorem bindArgs_var : ∀ args : List (Arg Term), bindArgs .var args = args
  | [] => rfl
  | a :: rest => by rw [bindArgs, bind_var, bindArgs_var rest]

end

mutual

/-- **A replacement of variables that leads to a ground term** may give way to another that agrees with it on what is
ground. -/
theorem bind_eq_of_isGround {f g : String → Nat → Term}
    (h : ∀ name i, (f name i).isGround = true → g name i = f name i) : ∀ {t : Term},
      (t.bind f).isGround = true → t.bind g = t.bind f
  | .const _, _ | .template _, _ | .nil, _ => rfl
  | .var name i, ht => h name i ht
  | .compound functor _, ht => congrArg (Term.compound functor) (bindArgs_eq_of_areGround h ht)

theorem bindArgs_eq_of_areGround {f g : String → Nat → Term}
    (h : ∀ name i, (f name i).isGround = true → g name i = f name i) : ∀ {args : List (Arg Term)},
      areGround (bindArgs f args) = true → bindArgs g args = bindArgs f args
  | [], _ => rfl
  | a :: rest, ht => by
    rw [bindArgs, areGround, Bool.and_eq_true] at ht
    rw [bindArgs, bindArgs, bind_eq_of_isGround h ht.1, bindArgs_eq_of_areGround h ht.2]

end

theorem isGround_cell {x xs : Term} (hx : x.isGround = true) (hxs : xs.isGround = true) :
    (cell x xs).isGround = true :=
  areGround_positional (List.forall_mem_cons.2 ⟨hx, List.forall_mem_singleton.2 hxs⟩)

theorem isGround_list : ∀ {l : List Term}, (∀ t ∈ l, t.isGround = true) → (list l .nil).isGround = true
  | [], _ => rfl
  | _ :: _, h => isGround_cell (List.forall_mem_cons.1 h).1 (isGround_list (List.forall_mem_cons.1 h).2)

end Term

namespace Bindings

variable {b c : Bindings} {s t u v : Term} {name : String} {i j n m : Nat}

/-! ## Rounds of replacing variables -/

theorem resolveFor_free (b : Bindings) (n : Nat) (name : String) (h : b.lookup? i = none) :
    b.resolveFor n (.var name i) = .var name i := by
  cases n with
  | zero => rfl
  | succ n => rw [resolveFor, if_neg Bool.noConfusion, Term.bind, h]

theorem exists_of_isGround_var (h : (b.resolveFor n (.var name i)).isGround = true) :
    ∃ m u, n = m + 1 ∧ b.lookup? i = some u ∧ b.resolveFor n (.var name i) = b.resolveFor m u := by
  cases n with
  | zero => cases h
  | succ n =>
    cases hi : b.lookup? i with
    | none =>
      rw [resolveFor_free b (n + 1) name hi] at h
      cases h
    | some u => exact ⟨n, u, rfl, rfl, resolveFor_var b n name hi⟩

/-- **What has become ground stays as it is** with more bindings and in more rounds. -/
theorem Extends.resolveFor_eq (h : Extends b c) : ∀ {n m : Nat} {t : Term}, (b.resolveFor n t).isGround = true →
    n ≤ m → c.resolveFor m t = b.resolveFor n t
  | 0, _, _, ht, _ => c.resolveFor_of_isGround ht _
  | _ + 1, 0, _, _, hm => nomatch hm
  | n + 1, m + 1, t, ht, hm => by
    rw [Bindings.resolveFor_eq b n t] at ht ⊢
    rw [Bindings.resolveFor_eq c m t]
    refine Term.bind_eq_of_isGround (fun name i hi => ?_) ht
    obtain ⟨_, u, hn, hu, heq⟩ := exists_of_isGround_var hi
    obtain rfl := Nat.succ.inj hn
    rw [heq] at hi ⊢
    rw [resolveFor_var c m name (h.lookup?_eq hu)]
    exact h.resolveFor_eq hi (Nat.le_of_succ_le_succ hm)

/-- **A term that becomes ground in the last of its rounds** has a variable whose slot holds a term that needs all the
rounds but this one. -/
theorem exists_slot (h : (b.resolveFor (n + 1) t).isGround = true) (hn : ¬(b.resolveFor n t).isGround = true) :
    ∃ i u, b.lookup? i = some u ∧ (b.resolveFor n u).isGround = true ∧
      ∀ m, n = m + 1 → ¬(b.resolveFor m u).isGround = true := by
  refine Classical.byContradiction fun hnone => hn ?_
  -- if each of them needed fewer rounds, the term would be the same a round earlier
  have hall : ∀ i u, b.lookup? i = some u → (b.resolveFor n u).isGround = true →
      ∃ m, n = m + 1 ∧ (b.resolveFor m u).isGround = true := by
    intro i u hi hu
    refine Classical.byContradiction fun hm => hnone ⟨i, u, hi, hu, fun m heq hg => hm ⟨m, heq, hg⟩⟩
  have hsame : t.bind (fun name i => b.resolveFor n (.var name i)) =
      t.bind fun name i => b.resolveFor (n + 1) (.var name i) := by
    refine Term.bind_eq_of_isGround (fun name i hi => ?_) (resolveFor_eq b n t ▸ h)
    obtain ⟨_, u, hn, hu, heq⟩ := exists_of_isGround_var hi
    obtain rfl := Nat.succ.inj hn
    rw [heq] at hi ⊢
    obtain ⟨m, rfl, hg⟩ := hall i u hu hi
    rw [resolveFor_var b m name hu]
    exact (Extends.refl.resolveFor_eq hg (Nat.le_succ m)).symm
  cases n with
  | zero =>
    have hself : t.bind (fun name i => b.resolveFor 0 (.var name i)) = t := Term.bind_var t
    rw [resolveFor_eq b 0 t, ← hsame, hself] at h
    exact h
  | succ m => rw [resolveFor_eq b m t, hsame, ← resolveFor_eq b (m + 1) t]; exact h

/-- **A term that needs `n + 1` rounds leads through as many slots.** -/
theorem exists_slots : ∀ {n : Nat} {t : Term}, (b.resolveFor (n + 1) t).isGround = true →
    ¬(b.resolveFor n t).isGround = true → ∃ l : List Nat, l.length = n + 1 ∧ l.Nodup ∧
      ∀ i ∈ l, ∃ u, b.lookup? i = some u ∧ (b.resolveFor n u).isGround = true
  | 0, t, h, hn => by
    obtain ⟨i, u, hi, hu, -⟩ := exists_slot h hn
    exact ⟨[i], rfl, List.nodup_cons.2 ⟨List.not_mem_nil, List.nodup_nil⟩, List.forall_mem_singleton.2 ⟨u, hi, hu⟩⟩
  | n + 1, t, h, hn => by
    obtain ⟨i, u, hi, hu, hlast⟩ := exists_slot h hn
    obtain ⟨l, hl, hnodup, hslots⟩ := exists_slots hu (hlast n rfl)
    refine ⟨i :: l, congrArg (· + 1) hl, List.nodup_cons.2 ⟨fun hmem => ?_, hnodup⟩,
      List.forall_mem_cons.2 ⟨⟨u, hi, hu⟩, fun j hj => ?_⟩⟩
    · obtain ⟨u', hi', hu'⟩ := hslots i hmem
      rw [hi, Option.some.injEq] at hi'
      exact hlast n rfl (hi' ▸ hu')
    · obtain ⟨u', hj', hu'⟩ := hslots j hj
      exact ⟨u', hj', by rw [Extends.refl.resolveFor_eq hu' (Nat.le_succ n)]; exact hu'⟩

/-- **There are no more rounds to be made than there are slots.** -/
theorem isGround_resolveFor_size : ∀ {n : Nat} {t : Term}, (b.resolveFor n t).isGround = true →
    (b.resolveFor b.size t).isGround = true
  | 0, t, h => by
    have ht : t.isGround = true := h
    rw [b.resolveFor_of_isGround ht]
    exact ht
  | n + 1, t, h => by
    by_cases hn : (b.resolveFor n t).isGround = true
    · exact isGround_resolveFor_size hn
    · obtain ⟨l, hl, hnodup, hslots⟩ := exists_slots h hn
      have hsub : l ⊆ List.range b.size := fun i hi => by
        obtain ⟨u, hu, -⟩ := hslots i hi
        exact List.mem_range.2 (lt_size_of_lookup? hu)
      have hle := hnodup.length_le_of_subset hsub
      rw [hl, List.length_range] at hle
      rw [Extends.refl.resolveFor_eq h hle]
      exact h

/-! ## What a term denotes -/

/-- **Under some bindings a term denotes a ground term.** -/
def Denotes (b : Bindings) (t u : Term) : Prop := u.isGround = true ∧ ∃ n, b.resolveFor n t = u

theorem Denotes.isGround_resolveFor (h : b.Denotes t u) : ∃ n, (b.resolveFor n t).isGround = true := by
  obtain ⟨hu, n, hn⟩ := h
  exact ⟨n, hn.symm ▸ hu⟩

theorem denotes_self (h : t.isGround = true) : b.Denotes t t := ⟨h, 0, rfl⟩

theorem Denotes.kept (h : Extends b c) (ht : b.Denotes t u) : c.Denotes t u := by
  obtain ⟨hu, n, rfl⟩ := ht
  exact ⟨hu, n, h.resolveFor_eq hu (Nat.le_refl n)⟩

theorem Denotes.resolveFor_eq (h : b.Denotes t u) (hn : b.size ≤ n) : b.resolveFor n t = u := by
  obtain ⟨hu, m, rfl⟩ := h
  have hsize := isGround_resolveFor_size hu
  have hmax : b.resolveFor (max m b.size) t = b.resolveFor m t := Extends.refl.resolveFor_eq hu (Nat.le_max_left _ _)
  rw [Extends.refl.resolveFor_eq hsize hn, ← hmax]
  exact (Extends.refl.resolveFor_eq hsize (Nat.le_max_right _ _)).symm

/-- **Resolving a term gives what it denotes.** -/
theorem Denotes.resolve_eq (h : b.Denotes t u) : b.resolve t = u := h.resolveFor_eq (Nat.le_succ b.size)

theorem denotes_var (hi : b.lookup? i = some t) (h : b.Denotes t u) : b.Denotes (.var name i) u := by
  obtain ⟨hu, n, hn⟩ := h
  exact ⟨hu, n + 1, (resolveFor_var b n name hi).trans hn⟩

theorem denotes_cell {x xs : Term} (hs : b.Denotes s x) (ht : b.Denotes t xs) :
    b.Denotes (.cell s t) (.cell x xs) := by
  refine ⟨Term.isGround_cell hs.1 ht.1, b.size + 1, ?_⟩
  rw [← hs.resolveFor_eq (Nat.le_succ b.size), ← ht.resolveFor_eq (Nat.le_succ b.size)]
  exact b.resolveFor_cell b.size s t

/-! ## Following the variable at the front -/

theorem denotes_walkFor : ∀ (n : Nat) {t : Term}, b.Denotes t u → b.Denotes (b.walkFor n t) u
  | 0, _, h => h
  | n + 1, .var name i, ⟨hu, m, hm⟩ => by
    rw [← hm] at hu
    obtain ⟨k, w, -, hw, heq⟩ := exists_of_isGround_var hu
    rw [walkFor, hw]
    exact denotes_walkFor n ⟨hm ▸ hu, k, heq.symm.trans hm⟩
  | _ + 1, .const _, h | _ + 1, .compound _ _, h | _ + 1, .template _, h | _ + 1, .nil, h => h

theorem isVar_walkFor : ∀ {n : Nat} {t : Term}, (b.resolveFor n t).isGround = true → (b.walkFor n t).isVar = false
  | 0, _, h => Term.isVar_of_isGround h
  | n + 1, .var name i, h => by
    obtain ⟨k, w, hn, hw, heq⟩ := exists_of_isGround_var h
    obtain rfl := Nat.succ.inj hn
    rw [walkFor, hw]
    exact isVar_walkFor (heq ▸ h)
  | _ + 1, .const _, _ | _ + 1, .compound _ _, _ | _ + 1, .template _, _ | _ + 1, .nil, _ => rfl

/-- **Following the variable at the front of a term that denotes something** ends at a term that denotes the same. -/
theorem Denotes.walk (h : b.Denotes t u) : (b.walk t).isVar = false ∧ b.Denotes (b.walk t) u := by
  obtain ⟨n, hn⟩ := h.isGround_resolveFor
  exact ⟨isVar_walkFor (isGround_resolveFor_size hn), denotes_walkFor _ h⟩

theorem Denotes.eq_of_ne_compound (h : b.Denotes t u) (hv : t.isVar = false) (hu : ∀ f args, u ≠ .compound f args) :
    t = u := by
  obtain ⟨-, n, hn⟩ := h
  cases n with
  | zero => exact hn
  | succ n =>
    rw [Bindings.resolveFor_eq] at hn
    cases t with
    | var _ _ => cases hv
    | compound f args => exact absurd hn.symm (hu f _)
    | const _ | template _ | nil => exact hn

theorem Denotes.walk_eq_nil (h : b.Denotes t .nil) : b.walk t = .nil :=
  h.walk.2.eq_of_ne_compound h.walk.1 fun _ _ heq => nomatch heq

theorem Denotes.walk_eq_const {w : Value} (h : b.Denotes t (.const w)) : b.walk t = .const w :=
  h.walk.2.eq_of_ne_compound h.walk.1 fun _ _ heq => nomatch heq

/-- **Where a cell is denoted there is a cell** whose parts denote its parts. -/
theorem Denotes.eq_cell {x xs : Term} (h : b.Denotes t (.cell x xs)) (hv : t.isVar = false) :
    ∃ s s', t = .cell s s' ∧ b.Denotes s x ∧ b.Denotes s' xs := by
  obtain ⟨hg, n, hn⟩ := h
  obtain ⟨hx, hxs⟩ : x.isGround = true ∧ xs.isGround = true := by
    have hboth : (x.isGround && (xs.isGround && true)) = true := hg
    rw [Bool.and_true, Bool.and_eq_true] at hboth
    exact hboth
  have hn : b.resolveFor (n + 1) t = .cell x xs := by
    rw [← hn] at hg ⊢
    exact Extends.refl.resolveFor_eq hg (Nat.le_succ n)
  rw [Bindings.resolveFor_eq] at hn
  cases t with
  | var _ _ => cases hv
  | const _ | template _ | nil => cases hn
  | compound f args =>
    obtain ⟨rfl, hargs⟩ := Term.compound.inj hn
    match args, hargs with
    | [⟨m, s⟩, ⟨m', s'⟩], hargs =>
      obtain ⟨hs, hrest⟩ := List.cons.inj hargs
      have hs' := (List.cons.inj hrest).1
      obtain rfl : m = none := congrArg Arg.name hs
      obtain rfl : m' = none := congrArg Arg.name hs'
      have hs : s.bind _ = x := congrArg Arg.value hs
      have hs' : s'.bind _ = xs := congrArg Arg.value hs'
      rw [← Bindings.resolveFor_eq] at hs hs'
      exact ⟨s, s', rfl, ⟨hx, n + 1, hs⟩, ⟨hxs, n + 1, hs'⟩⟩
    | [], hargs => cases hargs
    | [_], hargs => cases (List.cons.inj hargs).2
    | _ :: _ :: _ :: _, hargs => cases (List.cons.inj (List.cons.inj hargs).2).2

end Bindings

/-! ## Arguments that are given and arguments that are open -/

namespace Bindings

variable {b c d : Bindings} {s t u x xs : Term} {es fs : List Equation} {name name' : String} {i j k l n : Nat}
  {I J : List Nat}

/-- **There is such a slot, and it holds nothing.** -/
structure Open (b : Bindings) (i : Nat) : Prop where
  free : b.lookup? i = none
  lt : i < b.size

theorem Open.allocate (h : b.Open i) (n : Nat) : (b.allocate n).2.Open i :=
  ⟨by rw [lookup?_allocate, h.free], by rw [size_allocate]; exact Nat.lt_add_right n h.lt⟩

theorem open_new (hi : i < n) : (b.allocate n).2.Open (i + b.size) :=
  ⟨by rw [lookup?_allocate, lookup?_eq_none (Nat.le_add_left _ _)], by rw [size_allocate]; omega⟩

theorem Open.bind (h : b.Open i) (hne : j ≠ i) (t : Term) : (b.bind j t).Open i :=
  ⟨by rw [lookup?_bind, if_neg hne, h.free], by rw [size_bind]; exact Nat.lt_of_lt_of_le h.lt (Nat.le_max_left _ _)⟩

/-- **Equations are taken up**: unification solves them in at most `k` steps, and of the slots that were open only those
of `I` may have been bound. -/
structure Takes (b : Bindings) (es : List Equation) (k : Nat) (I : List Nat) (c : Bindings) : Prop where
  solves : Solves k b es c
  extended : Extends b c
  open_ : ∀ m, b.Open m → m ∉ I → c.Open m

theorem Takes.append (h : Takes b es k I c) (h' : Takes c fs l J d) : Takes b (es ++ fs) (k + l) (I ++ J) d where
  solves := h.solves.append h'.solves
  extended := h.extended.trans h'.extended
  open_ m hm hmem := by
    rw [List.mem_append, not_or] at hmem
    exact h'.open_ m (h.open_ m hm hmem.1) hmem.2

theorem Takes.cons {e : Equation} (h : Takes b [e] k I c) (h' : Takes c es l J d) :
    Takes b (e :: es) (k + l) (I ++ J) d := h.append h'

theorem Takes.open_one (h : Takes b es k [i] c) {m : Nat} (hm : b.Open m) (hne : m ≠ i) : c.Open m :=
  h.open_ m hm fun hmem => hne (List.mem_singleton.1 hmem)

theorem Takes.open_two (h : Takes b es k [i, j] c) {m : Nat} (hm : b.Open m) (hi : m ≠ i) (hj : m ≠ j) : c.Open m :=
  h.open_ m hm (List.not_mem_cons_of_ne_of_not_mem hi fun hmem => hj (List.mem_singleton.1 hmem))

theorem takes_bind (hi : b.Open i) (ht : b.Fits i t) (h : Solves k b [.pair s u] (b.bind i t)) :
    Takes b [.pair s u] k [i] (b.bind i t) where
  solves := h
  extended := Extends.refl.bind i t hi.free ht
  open_ _ hm hmem := hm.bind (fun heq => hmem (List.mem_singleton.2 heq.symm)) t

theorem fits_of_not_isVar (ht : t.isVar = false) : b.Fits i t := fun _ _ heq => by
  rw [heq] at ht
  cases ht

/-- **A variable of a head takes over what is given.** -/
theorem exists_takes_given (h : b.Denotes s u) (hi : b.Open i) :
    ∃ c, Takes b [.pair s (.var name i)] 1 [i] c ∧ c.Denotes (.var name i) u := by
  obtain ⟨hvar, hwalk⟩ := h.walk
  have htakes : Takes b [.pair s (.var name i)] 1 [i] (b.bind i (b.walk s)) :=
    takes_bind hi (fits_of_not_isVar hvar) (solves_fresh hvar hi.free)
  refine ⟨_, htakes, denotes_var ?_ (hwalk.kept htakes.extended)⟩
  rw [lookup?_bind, if_pos rfl]

/-- **What is open is bound to what the head has.** -/
theorem exists_takes_open (hi : b.Open i) (ht : t.isVar = false) :
    ∃ c, Takes b [.pair (.var name i) t] 1 [i] c ∧ c.lookup? i = some t := by
  refine ⟨_, takes_bind hi (fits_of_not_isVar ht) (solves_open hi.free ht), ?_⟩
  rw [lookup?_bind, if_pos rfl]

theorem exists_takes_link (hi : b.Open i) (hj : b.Open j) (hne : i ≠ j) :
    ∃ c, Takes b [.pair (.var name i) (.var name' j)] 1 [i] c ∧ c.lookup? i = some (.var name' j) := by
  have hfits : b.Fits i (.var name' j) := fun _ _ heq => by
    cases heq
    exact ⟨Ne.symm hne, hj.free⟩
  refine ⟨_, takes_bind hi hfits (solves_pair ?_ solves_nil), ?_⟩
  · rw [walk_of_free hi.free, walk_of_free hj.free, unifyStep, if_neg hne]
  · rw [lookup?_bind, if_pos rfl]

theorem exists_takes_known (hi : b.Open i) (ht : b.Denotes t u) :
    ∃ c, Takes b [.pair (.var name i) t] 1 [i] c ∧ c.Denotes (.var name i) u := by
  obtain ⟨hvar, hwalk⟩ := ht.walk
  have hsolves : Solves 1 b [.pair (.var name i) t] (b.bind i (b.walk t)) := by
    refine solves_pair ?_ solves_nil
    rw [walk_of_free hi.free]
    cases hw : b.walk t with
    | var _ _ =>
      rw [hw] at hvar
      cases hvar
    | const _ | compound _ _ | template _ | nil => rfl
  have htakes := takes_bind hi (fits_of_not_isVar hvar) hsolves
  refine ⟨_, htakes, denotes_var ?_ (hwalk.kept htakes.extended)⟩
  rw [lookup?_bind, if_pos rfl]

/-! ## Lists -/

/-- **The end of a list** fits the end of a list. -/
theorem takes_nil (h : b.Denotes s .nil) : Takes b [.pair s .nil] 1 [] b where
  solves := solves_nils h.walk_eq_nil
  extended := .refl
  open_ _ hm _ := hm

/-- **A cell takes a list apart.** -/
theorem exists_takes_cell (h : b.Denotes s (.cell x xs)) (hi : b.Open i) (hj : b.Open j) (hne : i ≠ j) :
    ∃ c, Takes b [.pair s (.cell (.var name i) (.var name' j))] 3 [i, j] c ∧ c.Denotes (.var name i) x ∧
      c.Denotes (.var name' j) xs := by
  obtain ⟨hvar, hwalk⟩ := h.walk
  obtain ⟨v, vs, heq, hv, hvs⟩ := hwalk.eq_cell hvar
  obtain ⟨c, hc, hx⟩ := exists_takes_given hv hi
  obtain ⟨d, hd, hxs⟩ := exists_takes_given (hvs.kept hc.extended) (hc.open_one hj (Ne.symm hne))
  have hboth := hc.cons hd
  refine ⟨d, ⟨?_, hboth.extended, hboth.open_⟩, hx.kept hd.extended, hxs⟩
  have hl : [v, vs].length = [Term.var name i, Term.var name' j].length := rfl
  exact solves_compound heq hl hboth.solves

theorem clashes_nil_cell (h : b.Denotes s .nil) (t u : Term) : Clashes 1 b [.pair s (.cell t u)] := by
  refine clashes_of_step (c := b) ?_
  rw [h.walk_eq_nil, walk_of_not_isVar rfl]
  rfl

theorem clashes_cell_nil (h : b.Denotes s (.cell x xs)) : Clashes 1 b [.pair s .nil] := by
  obtain ⟨v, vs, heq, -⟩ := h.walk.2.eq_cell h.walk.1
  refine clashes_of_step (c := b) ?_
  rw [heq, walk_of_not_isVar rfl]
  rfl

end Bindings

end Remedy
