import Remedy.Proofs.Program.System
/-!
# Proofs.Program.Items — the items of a sorted list, and how rules take them up

An item has a key, which is a whole number, and values, which are terms without variables.  Where a rule writes an item
with fresh variables, unification binds them to its parts (`exists_solves_item`).  Where the variable for the key has
been bound before, it depends on the keys: items with equal keys are unified, whatever the values of the second
(`exists_solves_same`), and others clash (`clashes_same`).
-/
namespace Remedy

open Bindings (Extends Solves Clashes)

/-! ## Items -/

/-- **An item**: its key and its values. -/
structure Item where
  key : Int64
  values : List Term

def Item.parts (x : Item) : List Term := .const (.int x.key) :: x.values

namespace Insertion

variable {i : Insertion} {x y : Item} {ys : List Item}

def term (i : Insertion) (x : Item) : Term := i.wrap x.parts

def listOf (i : Insertion) (l : List Item) : Term := Term.list (l.map i.term) .nil

/-- The item has as many values as the rules provide for, and no variables. -/
structure Admits (i : Insertion) (x : Item) : Prop where
  length_eq : x.values.length = i.values.length
  ground : ∀ v ∈ x.values, v.isGround = true

theorem Admits.length_parts (hx : i.Admits x) : x.parts.length = i.width := congrArg (· + 1) hx.length_eq

theorem Admits.ground_parts (hx : i.Admits x) : ∀ t ∈ x.parts, t.isGround = true :=
  List.forall_mem_cons.2 ⟨rfl, hx.ground⟩

theorem Admits.not_isVar (hx : i.Admits x) : ∀ t ∈ x.parts, t.isVar = false := fun t ht =>
  Term.isVar_of_isGround (hx.ground_parts t ht)

theorem length_mineNames (i : Insertion) : i.mineNames.length = i.width := congrArg (· + 1) (List.length_map _)

theorem length_otherNames (i : Insertion) : i.otherNames.length = i.width := congrArg (· + 1) (List.length_map _)

theorem ground_wrap {ts : List Term} (h : ∀ t ∈ ts, t.isGround = true) : (i.wrap ts).isGround = true := by
  unfold wrap
  cases i.functor with
  | some f => exact Term.areGround_positional h
  | none =>
    cases ts with
    | nil => rfl
    | cons t ts => exact h t List.mem_cons_self

theorem ground_term (hx : i.Admits x) : (i.term x).isGround = true := ground_wrap hx.ground_parts

theorem ground_listOf : ∀ {l : List Item}, (∀ x ∈ l, i.Admits x) → (i.listOf l).isGround = true
  | [], _ => rfl
  | x :: l, h => by
    obtain ⟨hx, hl⟩ := List.forall_mem_cons.1 h
    have hparts : ∀ t ∈ [i.term x, i.listOf l], t.isGround = true :=
      List.forall_mem_cons.2 ⟨ground_term hx, List.forall_mem_singleton.2 (ground_listOf hl)⟩
    exact Term.areGround_positional hparts

theorem offset_wrap (base : Nat) (ts : List Term) :
    (i.wrap ts).offset base = i.wrap (ts.map (Term.offset base)) := by
  unfold wrap
  cases i.functor with
  | some f =>
    simp only [Term.offset_eq]
    rw [Term.bind, Term.bindArgs_positional]
    congr 3
    exact funext fun t => (Term.offset_eq base t).symm
  | none => cases ts <;> rfl

theorem offset_mine (i : Insertion) (base : Nat) : i.mine.offset base = i.wrap (Term.vars i.mineNames base) := by
  unfold mine
  rw [offset_wrap, Term.vars_offset, Nat.zero_add]

theorem offset_other (i : Insertion) (base : Nat) :
    i.other.offset base = i.wrap (Term.vars i.otherNames (i.width + base)) := by
  unfold other
  rw [offset_wrap, Term.vars_offset]

theorem offset_same (i : Insertion) (base : Nat) : i.same.offset base =
    i.wrap (.var i.key.1 base :: Term.vars (i.values.map fun _ => "_") (i.width + base)) := by
  unfold same
  rw [offset_wrap, List.map_cons, Term.vars_offset, Term.offset_eq, Term.bind, Nat.zero_add]

theorem instantiate_mine (i : Insertion) (env : Expr.Env) (base : Nat) :
    i.mine.instantiate env base = .ok (i.wrap (Term.vars i.mineNames base)) := by
  unfold mine wrap
  cases i.functor with
  | some f =>
    simp only [Term.instantiate]
    rw [Term.instantiateArgs_vars, Nat.zero_add]
    rfl
  | none =>
    simp only [mineNames, Term.vars, List.headD_cons, Term.instantiate, Nat.zero_add]

variable {b c d : Bindings} {ts us : List Term} {k : Nat}

theorem exists_singleton (hf : i.functor = none) (h : ts.length = i.width) : ∃ t, ts = [t] := by
  unfold width at h
  rw [i.bare hf] at h
  exact List.length_eq_one_iff.1 h

/-- **Items are unified part by part.** -/
theorem solves_wrap (ht : ts.length = i.width) (hu : us.length = i.width)
    (h : Solves k b (List.zipWith .pair ts us) c) : Solves (k + 1) b [.pair (i.wrap ts) (i.wrap us)] c := by
  unfold wrap
  cases hf : i.functor with
  | some f => exact Bindings.solves_compound (Bindings.walk_of_not_isVar rfl) (ht.trans hu.symm) h
  | none =>
    obtain ⟨t, rfl⟩ := exists_singleton hf ht
    obtain ⟨u, rfl⟩ := exists_singleton hf hu
    exact h.mono (Nat.le_succ k)

theorem clashes_wrap (ht : ts.length = i.width) (hu : us.length = i.width)
    (h : Clashes k b (List.zipWith .pair ts us)) : Clashes (k + 1) b [.pair (i.wrap ts) (i.wrap us)] := by
  unfold wrap
  cases hf : i.functor with
  | some f => exact Bindings.clashes_compound (Bindings.walk_of_not_isVar rfl) (ht.trans hu.symm) h
  | none =>
    obtain ⟨t, rfl⟩ := exists_singleton hf ht
    obtain ⟨u, rfl⟩ := exists_singleton hf hu
    exact h.mono (Nat.le_succ k)

theorem resolveFor_wrap (i : Insertion) (b : Bindings) (n : Nat) (ts : List Term) :
    b.resolveFor (n + 1) (i.wrap ts) = i.wrap (ts.map (b.resolveFor (n + 1))) := by
  unfold wrap
  cases i.functor with
  | some f => exact b.resolveFor_compound n f ts
  | none =>
    cases ts with
    | nil => exact b.resolveFor_of_isGround rfl _
    | cons t ts => rfl

theorem resolveFor_vars (hx : i.Admits x) {names : List String} (hl : names.length = i.width) {n : Nat}
    (h : c.Holds n x.parts) (k : Nat) : c.resolveFor (k + 1) (i.wrap (Term.vars names n)) = i.term x := by
  rw [resolveFor_wrap, h.resolve_vars (hl.trans hx.length_parts.symm) hx.ground_parts]
  rfl

/-! ## Items and variables -/

theorem isVar_listOf (i : Insertion) : ∀ l : List Item, (i.listOf l).isVar = false
  | [] | _ :: _ => rfl

/-- **Fresh variables take an item up**, part by part. -/
theorem exists_solves_item (hx : i.Admits x) (ht : ts.map b.walk = x.parts) {names : List String}
    (hl : names.length = i.width) {n : Nat} (hfree : ∀ m, n ≤ m → m < n + i.width → b.lookup? m = none) :
    ∃ c, Solves (i.width + 1) b [.pair (i.wrap ts) (i.wrap (Term.vars names n))] c ∧ Extends b c ∧
      c.Holds n x.parts ∧ ∀ m, m < n ∨ n + i.width ≤ m → c.lookup? m = b.lookup? m := by
  have hts : ts.length = i.width := by
    rw [← hx.length_parts, ← ht, List.length_map]
  rw [← hl] at hfree
  obtain ⟨c, hc, hbc, hholds, hrest⟩ :=
    Bindings.exists_solves_vars ht hx.not_isVar (hl.trans hts.symm) hfree
  rw [hl] at hc hrest
  exact ⟨c, solves_wrap hts (by rw [Term.length_vars, hl]) hc, hbc, hholds, hrest⟩

theorem constsAgree_int (m n : Int64) : Bindings.constsAgree (.int m) (.int n) = decide (m = n) := by
  have hbeq : (Value.int m == Value.int n) = decide (m = n) := rfl
  have hloose : (Value.int m).looselyEquals (.int n) = (some (compare m.toInt n.toInt) == some Ordering.eq) := rfl
  unfold Bindings.constsAgree
  rw [hbeq, hloose]
  by_cases h : m = n
  · rw [decide_eq_true h, Bool.true_or]
  · have hne : compare m.toInt n.toInt ≠ .eq := fun heq => h (Int64.toInt_inj.1 (Int.compare_eq_eq.1 heq))
    have hsome : (some (compare m.toInt n.toInt) == some Ordering.eq) = false :=
      beq_eq_false_iff_ne.2 fun heq => hne (Option.some.inj heq)
    rw [decide_eq_false h, hsome, Bool.and_false, Bool.or_false]

theorem solves_key {name : String} {n : Nat} {m : Int64} (h : b.lookup? n = some (.const (.int m))) :
    Solves 1 b [.pair (.const (.int m)) (.var name n)] b := by
  refine Bindings.solves_pair ?_ Bindings.solves_nil
  rw [Bindings.walk_of_bound h rfl, Bindings.walk_of_not_isVar rfl, Bindings.unifyStep, constsAgree_int,
    decide_eq_true rfl, if_pos rfl]

theorem clashes_key {name : String} {n : Nat} {m m' : Int64} (h : b.lookup? n = some (.const (.int m)))
    (hne : m' ≠ m) : Clashes 1 b [.pair (.const (.int m')) (.var name n)] := by
  refine Bindings.clashes_of_step (c := b) ?_
  rw [Bindings.walk_of_bound h rfl, Bindings.walk_of_not_isVar rfl, Bindings.unifyStep, constsAgree_int,
    decide_eq_false hne, if_neg Bool.noConfusion]

/-- **An item with the key that has been taken up** is taken up as well, whatever its values. -/
theorem exists_solves_same (hy : i.Admits y) {n : Nat} (hkey : b.lookup? n = some (.const (.int y.key)))
    (hfree : ∀ m, i.width + n ≤ m → m < i.width + n + i.values.length → b.lookup? m = none) :
    ∃ c, Solves (i.width + 1) b [.pair (i.term y) (i.same.offset n)] c ∧ Extends b c ∧
      ∀ m, m < i.width + n ∨ i.width + n + i.values.length ≤ m → c.lookup? m = b.lookup? m := by
  have hblanks : (i.values.map fun _ => "_").length = i.values.length := List.length_map _
  rw [← hblanks] at hfree
  have hvalues : ∀ v ∈ y.values, v.isVar = false := fun v hv => Term.isVar_of_isGround (hy.ground v hv)
  obtain ⟨c, hc, hbc, -, hrest⟩ := Bindings.exists_solves_vars (Bindings.map_walk hvalues) hvalues
    (hblanks.trans hy.length_eq.symm) hfree
  rw [hblanks] at hc hrest
  refine ⟨c, ?_, hbc, hrest⟩
  have hparts : Solves (1 + i.values.length) b (List.zipWith .pair y.parts
      (.var i.key.1 n :: Term.vars (i.values.map fun _ => "_") (i.width + n))) c := (solves_key hkey).cons hc
  rw [offset_same]
  rw [Nat.add_comm] at hparts
  exact solves_wrap hy.length_parts (by rw [List.length_cons, Term.length_vars, hblanks]; rfl) hparts

/-- **An item with another key than the one taken up** does not fit. -/
theorem clashes_same (hy : i.Admits y) {n : Nat} {m : Int64} (hkey : b.lookup? n = some (.const (.int m)))
    (hne : y.key ≠ m) : Clashes 2 b [.pair (i.term y) (i.same.offset n)] := by
  have hblanks : (i.values.map fun _ => "_").length = i.values.length := List.length_map _
  rw [offset_same]
  exact clashes_wrap hy.length_parts (by rw [List.length_cons, Term.length_vars, hblanks]; rfl)
    ((clashes_key hkey hne).append_right _)

/-- **A cell of a head takes up a list** that is not empty: its first item and the rest. -/
theorem solves_cell {t u : Term} (ht : b.walk t = i.listOf (y :: ys)) (hu : Solves k b [.pair (i.term y) u] c)
    {name : String} {n : Nat} (hn : c.lookup? n = none) :
    Solves (k + 2) b [.pair t (.cell u (.var name n))] (c.bind n (i.listOf ys)) := by
  have hwalk : c.walk (i.listOf ys) = i.listOf ys := Bindings.walk_of_not_isVar (i.isVar_listOf ys)
  have hrest : Solves 1 c [.pair (i.listOf ys) (.var name n)] (c.bind n (c.walk (i.listOf ys))) :=
    Bindings.solves_fresh (by rw [hwalk]; exact i.isVar_listOf ys) hn
  have hboth : Solves (k + 1) b (List.zipWith .pair [i.term y, i.listOf ys] [u, .var name n])
      (c.bind n (c.walk (i.listOf ys))) := hu.cons hrest
  rw [hwalk] at hboth
  have hl : [i.term y, i.listOf ys].length = [u, .var name n].length := rfl
  exact Bindings.solves_compound ht hl hboth

end Insertion

end Remedy
