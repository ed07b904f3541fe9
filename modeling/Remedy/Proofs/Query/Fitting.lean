import Remedy.Proofs.Program.Items
import Remedy.Proofs.Query.Simulation
/-!
# Proofs.Query.Fitting — which of the rules for sorted lists fit a call

A call that puts an item into a sorted list has its item and its list given and its result open (`Asks`).  Every rule
takes the item up first.  Into an empty list only the first rule fits; a list that has a first item fits the second rule
if the keys are equal, and the third and the fourth in any case.  What a rule that fits binds is said for each of them,
and so is what the test of the third comes to (`value_test`).
-/
namespace Remedy

open Bindings (Extends Solves Clashes)
open Query (Copy headed)

namespace Insertion

variable {i : Insertion} {x y : Item} {ys l : List Item} {b c d : Bindings} {ts : List Term} {t : Term}
  {name : String} {j k n : Nat}

/-! ## The head of a rule -/

/-- **A call asks for an item to be put into a list**: both are given, whatever variables they are given by, and the
result is open. -/
structure Asks (i : Insertion) (b : Bindings) (x : Item) (l : List Item) (ts : List Term) (t : Term) (j : Nat) :
    Prop where
  item : ts.map b.walk = x.parts
  list : b.walk t = i.listOf l
  free : b.lookup? j = none
  lt : j < b.size

/-- **The item of a call has been taken up** by a fresh copy of a rule with `n` variables, and nothing else has. -/
structure Begun (i : Insertion) (b : Bindings) (n : Nat) (x : Item) (c : Bindings) : Prop where
  extended : Extends (b.allocate n).2 c
  item : c.Holds b.size x.parts
  others : ∀ m, m < b.size ∨ b.size + i.width ≤ m → c.lookup? m = b.lookup? m

theorem Begun.extends_calling (h : Begun i b n x c) : Extends b c :=
  (Extends.refl.allocate n).trans h.extended

theorem Begun.free (h : Begun i b n x c) {m : Nat} (hm : b.size + i.width ≤ m) : c.lookup? m = none := by
  rw [h.others m (.inr hm)]
  exact Bindings.lookup?_eq_none (by omega)

theorem Begun.key (h : Begun i b n x c) : c.lookup? b.size = some (.const (.int x.key)) := h.item.1

theorem Asks.walk_list (h : i.Asks b x l ts t j) (hbc : Extends b c) : c.walk t = i.listOf l := by
  have hvar : (b.walk t).isVar = false := by
    rw [h.list]
    exact i.isVar_listOf l
  rw [hbc.walk_eq hvar, h.list]

/-- **Every rule takes the item up first.** -/
theorem Asks.begin (h : i.Asks b x l ts t j) (hx : i.Admits x) (n : Nat) :
    ∃ c, Solves (i.width + 1) (b.allocate n).2 [.pair (i.wrap ts) (i.mine.offset b.size)] c ∧ Begun i b n x c := by
  have hnew : Extends b (b.allocate n).2 := Extends.refl.allocate n
  have hwalk : ts.map (b.allocate n).2.walk = x.parts := by
    rw [← h.item]
    refine List.map_congr_left fun u hu => hnew.walk_eq ?_
    exact hx.not_isVar _ (h.item ▸ List.mem_map_of_mem hu)
  have hfree : ∀ m, b.size ≤ m → m < b.size + i.width → (b.allocate n).2.lookup? m = none := by
    intro m hm _
    rw [Bindings.lookup?_allocate, Bindings.lookup?_eq_none hm]
  obtain ⟨c, hc, hext, hholds, hrest⟩ := exists_solves_item hx hwalk i.length_mineNames hfree
  rw [← offset_mine] at hc
  refine ⟨c, hc, hext, hholds, fun m hm => ?_⟩
  rw [hrest m hm, Bindings.lookup?_allocate]

theorem headed_rule (b : Bindings) (item list result : Term) (k : Nat) (list' result' : Term)
    (body : List (Goal Callee)) (names : List String) :
    headed b (i.call item list result) (i.rule k list' result' body names) =
      (b.allocate (i.width + names.length)).2.unifyAll [.pair item (i.mine.offset b.size),
        .pair list (list'.offset b.size), .pair result (result'.offset b.size)] := by
  have hsize : (i.rule k list' result' body names).vars.size = i.width + names.length := by
    rw [← length_mineNames]
    exact List.length_append
  have hhead : (i.rule k list' result' body names).head.offset b.size =
      i.call (i.mine.offset b.size) (list'.offset b.size) (result'.offset b.size) :=
    Call.offset_positional b.size _ [i.mine, list', result']
  have hl : [item, list, result].length =
      [i.mine.offset b.size, list'.offset b.size, result'.offset b.size].length := rfl
  unfold headed Bindings.unifyCall
  rw [hsize, hhead]
  exact congrArg _ (Bindings.callEquations_positional _ hl)

variable {list' result' : Term} {body : List (Goal Callee)} {names : List String}

/-- **A rule whose list does not fit** does not fit. -/
theorem Asks.unfit (h : i.Asks b x l ts t j) (hx : i.Admits x) (hw : i.width ≤ 2)
    (hlist : ∀ c, Begun i b (i.width + names.length) x c → Clashes 5 c [.pair t (list'.offset b.size)]) :
    (headed b (i.call (i.wrap ts) t (.var name j)) (i.rule k list' result' body names)).2 = false := by
  obtain ⟨c, hc, hbegun⟩ := h.begin hx (i.width + names.length)
  rw [headed_rule]
  have hclash := (hc.clashes (hlist c hbegun)).append_right [.pair (.var name j) (result'.offset b.size)]
  refine Bindings.unifyAll_of_clashes hclash ?_
  unfold Bindings.usual
  omega

/-- **A rule whose list fits** fits, and the result is what the rule says. -/
theorem fit_of_solves (hw : i.width ≤ 2)
    (hc : Solves (i.width + 1) (b.allocate (i.width + names.length)).2 [.pair (i.wrap ts) (i.mine.offset b.size)] c)
    (hlist : Solves 5 c [.pair t (list'.offset b.size)] d) (hj : d.lookup? j = none)
    (hresult : (result'.offset b.size).isVar = false) :
    headed b (i.call (i.wrap ts) t (.var name j)) (i.rule k list' result' body names) =
      (d.bind j (result'.offset b.size), true) := by
  rw [headed_rule]
  -- the third argument of the call is still open: it gets what the head has in its place
  have hopen : Solves 1 d [.pair (.var name j) (result'.offset b.size)] (d.bind j (result'.offset b.size)) :=
    Bindings.solves_open hj hresult
  refine Bindings.unifyAll_of_solves (hc.cons (hlist.cons hopen)) ?_
  unfold Bindings.usual
  omega

/-! ## The rules one by one -/

theorem isVar_cell (head tail : Term) (base : Nat) : ((Term.cell head tail).offset base).isVar = false := by
  rw [Term.offset_cell]
  rfl

/-- **Into an empty list** the item goes by the first rule. -/
theorem fit_intoEmpty (h : i.Asks b x [] ts t j) (hx : i.Admits x) (hw : i.width ≤ 2) :
    ∃ c, headed b (i.call (i.wrap ts) t (.var name j)) i.intoEmpty = (c, true) ∧
      Extends (b.allocate i.width).2 c ∧ c.Holds b.size x.parts ∧
      c.lookup? j = some (.cell (i.wrap (Term.vars i.mineNames b.size)) .nil) := by
  obtain ⟨c, hc, hbegun⟩ := h.begin hx (i.width + 0)
  have hlist : Solves 5 c [.pair t (Term.nil.offset b.size)] c :=
    (Bindings.solves_nils (h.walk_list hbegun.extends_calling)).mono (by omega)
  have hj : c.lookup? j = none := by
    rw [hbegun.others j (.inl h.lt), h.free]
  have hresult := isVar_cell i.mine .nil b.size
  have hbind := Bindings.extends_bind hj hresult
  refine ⟨_, fit_of_solves hw hc hlist hj hresult, hbegun.extended.trans hbind, hbegun.item.kept hbind, ?_⟩
  rw [Bindings.lookup?_bind, if_pos rfl, Term.offset_cell, offset_mine]
  rfl

/-- **A list that is not empty** does not fit the first rule. -/
theorem unfit_intoEmpty (h : i.Asks b x (y :: ys) ts t j) (hx : i.Admits x) (hw : i.width ≤ 2) :
    (headed b (i.call (i.wrap ts) t (.var name j)) i.intoEmpty).2 = false := by
  refine h.unfit hx hw fun c hc => ?_
  refine (Bindings.clashes_of_step (c := c) ?_).mono (by omega)
  rw [h.walk_list hc.extends_calling, Bindings.walk_of_not_isVar rfl]
  rfl

/-- **An empty list** does not fit a rule that has a first item. -/
theorem unfit_cell (h : i.Asks b x [] ts t j) (hx : i.Admits x) (hw : i.width ≤ 2) {head tail : Term} :
    (headed b (i.call (i.wrap ts) t (.var name j)) (i.rule k (.cell head tail) result' body names)).2 = false := by
  refine h.unfit hx hw fun c hc => ?_
  refine (Bindings.clashes_of_step (c := c) ?_).mono (by omega)
  rw [h.walk_list hc.extends_calling, Term.offset_cell, Bindings.walk_of_not_isVar rfl]
  rfl

/-- **A rule that has a first item** fits if its first item does: the rest of the list is taken up, and the result is
what the rule says. -/
theorem fit_cell (h : i.Asks b x (y :: ys) ts t j) (hw : i.width ≤ 2)
    (hc : Solves (i.width + 1) (b.allocate (i.width + names.length)).2 [.pair (i.wrap ts) (i.mine.offset b.size)] c)
    (hbegun : Begun i b (i.width + names.length) x c) {head : Term}
    (hhead : Solves (i.width + 1) c [.pair (i.term y) (head.offset b.size)] d) (hcd : Extends c d) {rest : Nat}
    (hrest : d.lookup? (rest + b.size) = none) (hj : d.lookup? j = none)
    (hresult : (result'.offset b.size).isVar = false) :
    ∃ c', headed b (i.call (i.wrap ts) t (.var name j))
        (i.rule k (.cell head (.var "Ys" rest)) result' body names) = (c', true) ∧
      Extends (b.allocate (i.width + names.length)).2 c' ∧ Extends d c' ∧
      c'.lookup? (rest + b.size) = some (i.listOf ys) ∧ c'.lookup? j = some (result'.offset b.size) ∧
      ∀ m, m ≠ rest + b.size → m ≠ j → c'.lookup? m = d.lookup? m := by
  have hne : rest + b.size ≠ j := by
    have := h.lt
    omega
  have hlist : Solves 5 c [.pair t ((Term.cell head (.var "Ys" rest)).offset b.size)]
      (d.bind (rest + b.size) (i.listOf ys)) := by
    rw [Term.offset_cell]
    exact (solves_cell (h.walk_list hbegun.extends_calling) hhead hrest).mono (by omega)
  have hdr := Bindings.extends_bind hrest (i.isVar_listOf ys)
  have hopen : (d.bind (rest + b.size) (i.listOf ys)).lookup? j = none := by
    rw [Bindings.lookup?_bind, if_neg hne, hj]
  have hbind := Bindings.extends_bind hopen hresult
  refine ⟨_, fit_of_solves hw hc hlist hopen hresult, hbegun.extended.trans (hcd.trans (hdr.trans hbind)),
    hdr.trans hbind, hbind.lookup?_eq ?_, ?_, fun m hm hmj => ?_⟩
  · rw [Bindings.lookup?_bind, if_pos rfl]
  · rw [Bindings.lookup?_bind, if_pos rfl]
  · rw [Bindings.lookup?_bind, if_neg (Ne.symm hmj), Bindings.lookup?_bind, if_neg (Ne.symm hm)]

/-- **An item with the same key** makes way by the second rule. -/
theorem fit_inPlace (h : i.Asks b x (y :: ys) ts t j) (hx : i.Admits x) (hy : i.Admits y) (hw : i.width ≤ 2)
    (hkey : y.key = x.key) :
    ∃ c, headed b (i.call (i.wrap ts) t (.var name j)) i.inPlace = (c, true) ∧
      Extends (b.allocate (i.width + (i.values.length + 1))).2 c ∧ c.Holds b.size x.parts ∧
      c.lookup? (i.width + i.values.length + b.size) = some (i.listOf ys) ∧
      c.lookup? j = some (.cell (i.wrap (Term.vars i.mineNames b.size))
        (.var "Ys" (i.width + i.values.length + b.size))) := by
  have hnames : (i.values.map (fun _ => "_") ++ ["Ys"]).length = i.values.length + 1 := by
    rw [List.length_append, List.length_map]
    rfl
  obtain ⟨c, hc, hbegun⟩ := h.begin hx (i.width + (i.values.map (fun _ => "_") ++ ["Ys"]).length)
  have hlt := h.lt
  have hkey' : c.lookup? b.size = some (.const (.int y.key)) := hkey ▸ hbegun.key
  obtain ⟨d, hd, hcd, hothers⟩ := exists_solves_same hy hkey' fun m hm _ => hbegun.free (by omega)
  have hrest : d.lookup? (i.width + i.values.length + b.size) = none := by
    rw [hothers _ (by omega), hbegun.free (by omega)]
  have hj : d.lookup? j = none := by
    rw [hothers j (by omega), hbegun.others j (.inl hlt), h.free]
  obtain ⟨c', hfit, hext, hdc, hys, hresult, -⟩ := fit_cell h hw hc hbegun hd hcd hrest hj
    (isVar_cell i.mine (.var "Ys" (i.width + i.values.length)) b.size)
  rw [hnames] at hext
  refine ⟨c', hfit, hext, hbegun.item.kept (hcd.trans hdc), hys, ?_⟩
  rw [hresult, Term.offset_cell, offset_mine]
  rfl

/-- **An item with another key** does not fit the second rule. -/
theorem unfit_inPlace (h : i.Asks b x (y :: ys) ts t j) (hx : i.Admits x) (hy : i.Admits y) (hw : i.width ≤ 2)
    (hkey : y.key ≠ x.key) : (headed b (i.call (i.wrap ts) t (.var name j)) i.inPlace).2 = false := by
  refine h.unfit hx hw fun c hc => ?_
  rw [Term.offset_cell]
  have hitem := clashes_same hy hc.key hkey
  have hl : [i.term y, i.listOf ys].length =
      [i.same.offset b.size, (Term.var "Ys" (i.width + i.values.length)).offset b.size].length := rfl
  refine (Bindings.clashes_compound (h.walk_list hc.extends_calling) hl (hitem.append_right [_])).mono ?_
  omega

/-- **A rule for any first item** fits a list that is not empty. -/
theorem fit_other (h : i.Asks b x (y :: ys) ts t j) (hx : i.Admits x) (hy : i.Admits y) (hw : i.width ≤ 2)
    (hresult : (result'.offset b.size).isVar = false) :
    ∃ c, headed b (i.call (i.wrap ts) t (.var name j))
        (i.rule k (.cell i.other (.var "Ys" (i.width + i.width))) result' body names) = (c, true) ∧
      Extends (b.allocate (i.width + names.length)).2 c ∧ c.Holds b.size x.parts ∧
      c.Holds (i.width + b.size) y.parts ∧ c.lookup? (i.width + i.width + b.size) = some (i.listOf ys) ∧
      c.lookup? j = some (result'.offset b.size) ∧
      ∀ m, i.width + i.width + b.size < m → c.lookup? m = none := by
  obtain ⟨c, hc, hbegun⟩ := h.begin hx (i.width + names.length)
  have hlt := h.lt
  have hfresh : ∀ m, i.width + b.size ≤ m → m < i.width + b.size + i.width → c.lookup? m = none :=
    fun m hm _ => hbegun.free (by omega)
  obtain ⟨d, hd, hcd, hitem, hothers⟩ :=
    exists_solves_item hy (Bindings.map_walk hy.not_isVar) i.length_otherNames hfresh
  rw [← offset_other] at hd
  have hrest : ∀ m, i.width + i.width + b.size ≤ m → d.lookup? m = none := fun m hm => by
    rw [hothers m (by omega), hbegun.free (by omega)]
  have hj : d.lookup? j = none := by
    rw [hothers j (by omega), hbegun.others j (.inl hlt), h.free]
  obtain ⟨c', hfit, hext, hdc, hys, hr, hothers'⟩ :=
    fit_cell h hw hc hbegun hd hcd (hrest _ (Nat.le_refl _)) hj hresult
  refine ⟨c', hfit, hext, hbegun.item.kept (hcd.trans hdc), hitem.kept hdc, hys, hr, fun m hm => ?_⟩
  rw [hothers' m (by omega) (by omega), hrest m (by omega)]

/-! ## The comparison of the keys -/

theorem slot?_key (i : Insertion) (names : List String) :
    (⟨i.mineNames ++ names⟩ : VarTable).slot? i.key.1 = some 0 := by
  unfold VarTable.slot? mineNames
  rw [if_neg i.named.1, List.cons_append, List.findIdx?_cons, beq_self_eq_true, if_pos rfl]

theorem slot?_otherKey (i : Insertion) (names : List String) :
    (⟨i.mineNames ++ (i.otherNames ++ names)⟩ : VarTable).slot? i.key.2 = some i.width := by
  have hnone : i.mineNames.findIdx? (· == i.key.2) = none := by
    refine List.findIdx?_eq_none_iff.2 fun name hname => beq_eq_false_iff_ne.2 fun heq => ?_
    exact i.distinct (heq ▸ hname)
  unfold VarTable.slot?
  rw [if_neg i.named.2, List.findIdx?_append, hnone, length_mineNames]
  unfold otherNames
  rw [List.cons_append, List.findIdx?_cons, beq_self_eq_true, if_pos rfl, Option.map_some, Option.none_or, Nat.zero_add]

theorem view?_of_key {n : Nat} {m : Int64} (h : c.lookup? n = some (.const (.int m))) :
    c.view? name n = some (.int m) := by
  unfold Bindings.view?
  rw [Bindings.walk_of_bound h rfl]

/-- **The test compares the keys.** -/
theorem value_test (i : Insertion) (props : String → Option Value) (names : List String) {base : Nat}
    (hx : c.Holds base x.parts) (hy : c.Holds (i.width + base) y.parts) :
    Copy.value props ⟨0, ⟨i.mineNames ++ (i.otherNames ++ names)⟩, base⟩ c i.test =
      .ok (.bool (decide (x.key < y.key))) := by
  have hkey : c.view? i.key.1 (0 + base) = some (.int x.key) := view?_of_key (by rw [Nat.zero_add]; exact hx.1)
  have hother : c.view? i.key.2 (i.width + base) = some (.int y.key) := view?_of_key hy.1
  have hlt : (compare x.key.toInt y.key.toInt).isLT = decide (x.key < y.key) := by
    rw [Bool.eq_iff_iff, Ordering.isLT_iff_eq_lt, Int.compare_eq_lt, decide_eq_true_iff, Int64.lt_iff_toInt_lt]
  unfold Copy.value test
  simp only [Expr.eval, Expr.evalAll, Copy.env, slot?_key, slot?_otherKey, Option.bind_some, hkey, hother,
    Option.getD_some, Func.apply, Func.ordered, Value.compare?, hlt]
  rfl

end Insertion

end Remedy
