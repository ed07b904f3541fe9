import Remedy.Proofs.Query.Correctness
import Remedy.Proofs.Query.Fitting
import Remedy.Proofs.Query.System
/-!
# Proofs.Query.Insertion — a sorted list gets one more item, in one way only

A call that puts an item into an empty list is answered by the first rule alone.  Otherwise the keys decide: with the
key of the first item the second rule fits and cuts off the others; with a lesser key the third passes its test and cuts
off the fourth; with a greater key only the fourth goes on, with a call for the rest of the list.  So there is one
answer and nothing is left to try (`answers_insertion`), and a query has one solution (`sorted_insertion`).
-/
namespace Remedy

open Bindings (Extends)
open Query (Copy Answers headed)
open Query.Machine (ofClauses_cons ofClauses_skip)

namespace Insertion

variable {i : Insertion} {x y : Item} {ys l : List Item} {b c d : Bindings} {ts : List Term} {t : Term}
  {name : String} {j k n : Nat}

/-! ## The answers -/

variable {lib : Library} {props : String → Option Value}

/-- **The answers of a call of the predicate**, which stands in the system library. -/
def answers (i : Insertion) (lib : Library) (props : String → Option Value) (n : Nat) (goal : Call) (b : Bindings) :
    Answers :=
  (Answers.ofClauses (Answers.ofBody props (Answers.ofCall lib props n)) 0 goal b i.rules).closed

theorem ofCall_of_place {callee : Callee} {owner : Nat} (h : callee.place? owner = some (0, i.index))
    (hrules : Query.rulesOf lib 0 i.index = i.rules) (goal : Call) (b : Bindings) :
    Answers.ofCall lib props (n + 1) owner callee goal b = i.answers lib props n goal b := by
  unfold answers
  rw [← hrules]
  cases callee with
  | own index | foreign _ index =>
    cases h
    rfl
  | facts _ | external _ | builtin _ => cases h

/-- **The result of a call**: the variable stands for a term.  To find the term no more variables have to be followed
than the call has made, and one. -/
def Results (b c : Bindings) (name : String) (j : Nat) (r : Term) : Prop :=
  ∀ n, c.size < b.size + n → c.resolveFor n (.var name j) = r

theorem results_of_lookup? {r u : Term} (hsize : b.size < c.size) (hj : c.lookup? j = some u)
    (hu : ∀ n, c.size < b.size + (n + 2) → c.resolveFor (n + 1) u = r) : Results b c name j r := by
  intro n hn
  obtain ⟨m, rfl⟩ : ∃ m, n = m + 2 := ⟨n - 2, by omega⟩
  rw [c.resolveFor_var (m + 1) name hj]
  exact hu m hn

/-- **The one answer of a call**: there is no other, and the result is the given term. -/
def Gives (b : Bindings) (a : Answers) (name : String) (j : Nat) (r : Term) : Prop :=
  ∃ c, a = .answer c .exhausted ∧ Extends b c ∧ Results b c name j r

theorem extends_size {m : Nat} (hm : 0 < m) (h : Extends (b.allocate m).2 c) : Extends b c ∧ b.size < c.size := by
  have hsize := h.size_le
  rw [Bindings.size_allocate] at hsize
  exact ⟨(Extends.refl.allocate m).trans h, by omega⟩

/-- **Into an empty list**: only the first rule fits. -/
theorem answers_empty (h : i.Asks b x [] ts t j) (hx : i.Admits x) (hw : i.width ≤ 2) :
    Gives b (i.answers lib props n (i.call (i.wrap ts) t (.var name j)) b) name j (i.listOf [x]) := by
  obtain ⟨c, hfit, hext, hitem, hj⟩ := fit_intoEmpty h hx hw
  obtain ⟨hbc, hsize⟩ := extends_size (Nat.succ_pos _) hext
  have hothers : ∀ cl ∈ [i.inPlace, i.before, i.after],
      (headed b (i.call (i.wrap ts) t (.var name j)) cl).2 = false := by
    have hunfit (k : Nat) (head tail result : Term) (body : List (Goal Callee)) (names : List String) :
        (headed b (i.call (i.wrap ts) t (.var name j)) (i.rule k (.cell head tail) result body names)).2 = false :=
      unfit_cell h hx hw
    exact List.forall_mem_cons.2 ⟨hunfit .., List.forall_mem_cons.2 ⟨hunfit ..,
      List.forall_mem_singleton.2 (hunfit ..)⟩⟩
  refine ⟨c, ?_, hbc, results_of_lookup? hsize hj fun m _ => ?_⟩
  · have hrest := ofClauses_skip (Answers.ofBody props (Answers.ofCall lib props n)) 0
      (i.call (i.wrap ts) t (.var name j)) b [] _ hothers
    rw [List.append_nil] at hrest
    unfold answers rules
    rw [ofClauses_cons, hfit, if_pos rfl, hrest]
    rfl
  · rw [Bindings.resolveFor_cell, resolveFor_vars hx i.length_mineNames hitem, c.resolveFor_of_isGround rfl]
    rfl

/-- **The first item has the same key**: the second rule fits, and its cut leaves no other to try. -/
theorem answers_inPlace (h : i.Asks b x (y :: ys) ts t j) (hx : i.Admits x) (hy : i.Admits y)
    (hys : ∀ z ∈ ys, i.Admits z) (hw : i.width ≤ 2) (hkey : y.key = x.key) :
    Gives b (i.answers lib props n (i.call (i.wrap ts) t (.var name j)) b) name j (i.listOf (x :: ys)) := by
  obtain ⟨c, hfit, hext, hitem, hrest, hj⟩ := fit_inPlace h hx hy hw hkey
  obtain ⟨hbc, hsize⟩ := extends_size (by unfold width; omega) hext
  refine ⟨c, ?_, hbc, results_of_lookup? hsize hj fun m _ => ?_⟩
  · unfold answers rules
    rw [ofClauses_cons, unfit_intoEmpty h hx hw, if_neg Bool.noConfusion, ofClauses_cons, hfit, if_pos rfl]
    rfl
  · rw [Bindings.resolveFor_cell, resolveFor_vars hx i.length_mineNames hitem, c.resolveFor_var m _ hrest,
      c.resolveFor_of_isGround (ground_listOf hys)]
    rfl

theorem answers_other (h : i.Asks b x (y :: ys) ts t j) (hx : i.Admits x) (hy : i.Admits y) (hw : i.width ≤ 2)
    (hkey : y.key ≠ x.key) : i.answers lib props n (i.call (i.wrap ts) t (.var name j)) b =
      (Answers.ofClauses (Answers.ofBody props (Answers.ofCall lib props n)) 0 (i.call (i.wrap ts) t (.var name j)) b
        [i.before, i.after]).closed := by
  have hunfit : ∀ cl ∈ [i.intoEmpty, i.inPlace], (headed b (i.call (i.wrap ts) t (.var name j)) cl).2 = false :=
    List.forall_mem_cons.2 ⟨unfit_intoEmpty h hx hw, List.forall_mem_singleton.2 (unfit_inPlace h hx hy hw hkey)⟩
  unfold answers rules
  rw [← ofClauses_skip _ 0 _ b [i.before, i.after] _ hunfit]
  rfl

theorem ofBody_before (hx : c.Holds b.size x.parts) (hy : c.Holds (i.width + b.size) y.parts) :
    Answers.ofBody props (Answers.ofCall lib props n) ⟨0, i.before.vars, b.size⟩ i.before.body c =
      if x.key < y.key then .commit (.answer c .exhausted) else .exhausted := by
  have htest : Copy.value props ⟨0, i.before.vars, b.size⟩ c i.test = .ok (.bool (decide (x.key < y.key))) :=
    i.value_test props ["Ys"] hx hy
  have hbody : i.before.body = [.test i.test, .cut] := rfl
  rw [hbody, Answers.ofBody, Answers.ofGoal, htest]
  by_cases hlt : x.key < y.key
  · rw [if_pos hlt, decide_eq_true hlt]
    rfl
  · rw [if_neg hlt, decide_eq_false hlt]
    rfl

/-- **The first item has a greater key**: the third rule passes its test, and its cut leaves no other to try. -/
theorem answers_before (h : i.Asks b x (y :: ys) ts t j) (hx : i.Admits x) (hy : i.Admits y)
    (hys : ∀ z ∈ ys, i.Admits z) (hw : i.width ≤ 2) (hlt : x.key < y.key) :
    Gives b (i.answers lib props n (i.call (i.wrap ts) t (.var name j)) b) name j (i.listOf (x :: y :: ys)) := by
  have hne : y.key ≠ x.key := fun heq => Int64.lt_irrefl (heq ▸ hlt)
  obtain ⟨c, hfit, hext, hitem, hother, hrest, hj, -⟩ :=
    fit_other h hx hy hw (isVar_cell i.mine (.cell i.other (.var "Ys" (i.width + i.width))) b.size)
  have hfit : headed b (i.call (i.wrap ts) t (.var name j)) i.before = (c, true) := hfit
  obtain ⟨hbc, hsize⟩ := extends_size (by unfold width; omega) hext
  refine ⟨c, ?_, hbc, results_of_lookup? hsize hj fun m _ => ?_⟩
  · rw [answers_other h hx hy hw hne, ofClauses_cons, hfit, if_pos rfl, ofBody_before hitem hother, if_pos hlt]
    rfl
  · rw [Term.offset_cell, Term.offset_cell, Bindings.resolveFor_cell, Bindings.resolveFor_cell, offset_mine, offset_other,
      resolveFor_vars hx i.length_mineNames hitem, resolveFor_vars hy i.length_otherNames hother]
    have hvar : (Term.var "Ys" (i.width + i.width)).offset b.size = .var "Ys" (i.width + i.width + b.size) := rfl
    rw [hvar, c.resolveFor_var m _ hrest, c.resolveFor_of_isGround (ground_listOf hys)]
    rfl

/-- The call that the fourth rule makes. -/
def again (i : Insertion) (base : Nat) : Call :=
  i.call (i.wrap (Term.vars i.mineNames base)) (.var "Ys" (i.width + i.width + base))
    (.var "Zs" (i.width + i.width + 1 + base))

theorem ofBody_after (hrules : Query.rulesOf lib 0 i.index = i.rules) (base : Nat) :
    Answers.ofBody props (Answers.ofCall lib props (n + 1)) ⟨0, i.after.vars, base⟩ i.after.body c =
      (i.answers lib props n (i.again base) c).bind fun d => .answer d .exhausted := by
  have hargs (env : Expr.Env) : Term.instantiateArgs env base (positional [i.mine, .var "Ys" (i.width + i.width),
      .var "Zs" (i.width + i.width + 1)]) = .ok (i.again base).args := by
    unfold positional
    rw [List.map_cons, Term.instantiateArgs, instantiate_mine]
    rfl
  have hcall : Answers.ofCall lib props (n + 1) 0 (.own i.index) (i.again base) c =
      i.answers lib props n (i.again base) c := ofCall_of_place rfl hrules _ _
  have hbody : i.after.body = [.call (.own i.index) (i.call i.mine (.var "Ys" (i.width + i.width))
      (.var "Zs" (i.width + i.width + 1)))] := rfl
  rw [hbody, Answers.ofBody, Answers.ofGoal, ← hcall]
  unfold call
  simp only [hargs]
  rfl

/-- **The first item has a lesser key**: only the fourth rule goes on, and it has the answer that its call has. -/
theorem answers_after (hrules : Query.rulesOf lib 0 i.index = i.rules) (h : i.Asks b x (y :: ys) ts t j)
    (hx : i.Admits x) (hy : i.Admits y) (hw : i.width ≤ 2) (hne : y.key ≠ x.key) (hnlt : ¬x.key < y.key)
    {r : List Item} (hnext : ∀ c, i.Asks c x ys (Term.vars i.mineNames b.size)
        (.var "Ys" (i.width + i.width + b.size)) (i.width + i.width + 1 + b.size) →
      Gives c (i.answers lib props n (i.again b.size) c) "Zs" (i.width + i.width + 1 + b.size) (i.listOf r)) :
    Gives b (i.answers lib props (n + 1) (i.call (i.wrap ts) t (.var name j)) b) name j (i.listOf (y :: r)) := by
  -- the third rule fits as well, but its test will fail
  obtain ⟨c₃, hfit₃, -, hitem₃, hother₃, -⟩ :=
    fit_other h hx hy hw (isVar_cell i.mine (.cell i.other (.var "Ys" (i.width + i.width))) b.size)
  have hfit₃ : headed b (i.call (i.wrap ts) t (.var name j)) i.before = (c₃, true) := hfit₃
  obtain ⟨c, hfit, hext, hitem, hother, hrest, hj, hfree⟩ :=
    fit_other h hx hy hw (isVar_cell i.other (.var "Zs" (i.width + i.width + 1)) b.size)
  have hfit : headed b (i.call (i.wrap ts) t (.var name j)) i.after = (c, true) := hfit
  have hsize := hext.size_le
  have hnames : (i.otherNames ++ ["Ys", "Zs"]).length = i.width + 2 := by
    rw [List.length_append, length_otherNames]
    rfl
  rw [Bindings.size_allocate, hnames] at hsize
  -- the call that this rule makes asks for the same item to be put into the rest of the list
  have hasks : i.Asks c x ys (Term.vars i.mineNames b.size) (.var "Ys" (i.width + i.width + b.size))
      (i.width + i.width + 1 + b.size) := by
    refine ⟨?_, Bindings.walk_of_bound hrest (i.isVar_listOf ys), hfree _ (by omega), by omega⟩
    exact hitem.walk_vars (i.length_mineNames.trans hx.length_parts.symm) hx.not_isVar
  obtain ⟨d, hd, hcd, hresult⟩ := hnext c hasks
  have hbc : Extends b c := (Extends.refl.allocate _).trans hext
  have hle := hcd.size_le
  refine ⟨d, ?_, hbc.trans hcd, results_of_lookup? (by omega) (hcd.lookup?_eq hj) fun m hm => ?_⟩
  · rw [answers_other h hx hy hw hne, ofClauses_cons, hfit₃, if_pos rfl, ofBody_before hitem₃ hother₃,
      if_neg hnlt, ofClauses_cons, hfit, if_pos rfl, ofBody_after hrules, hd]
    rfl
  · have hvar : (Term.var "Zs" (i.width + i.width + 1)).offset b.size =
        .var "Zs" (i.width + i.width + 1 + b.size) := rfl
    rw [Term.offset_cell, Bindings.resolveFor_cell, offset_other, resolveFor_vars hy i.length_otherNames (hother.kept hcd), hvar,
      hresult (m + 1) (by omega)]
    rfl

/-- **A call has one answer and no other**: the list with the item put into it.  Calls are nested no deeper than the
list is long. -/
theorem answers_insertion (hrules : Query.rulesOf lib 0 i.index = i.rules) (hw : i.width ≤ 2) (hx : i.Admits x) :
    ∀ {l : List Item} {n : Nat} {b : Bindings} {ts : List Term} {t : Term} {name : String} {j : Nat},
      (∀ y ∈ l, i.Admits y) → l.length ≤ n → i.Asks b x l ts t j →
        Gives b (i.answers lib props n (i.call (i.wrap ts) t (.var name j)) b) name j (i.listOf (put Item.key x l))
  | [], _, _, _, _, _, _, _, _, h => answers_empty h hx hw
  | y :: ys, 0, _, _, _, _, _, _, hn, _ => nomatch hn
  | y :: ys, n + 1, b, ts, t, name, j, hl, hn, h => by
    obtain ⟨hy, hys⟩ := List.forall_mem_cons.1 hl
    rw [put]
    split
    · rename_i heq
      exact answers_inPlace h hx hy hys hw heq.symm
    · rename_i hne
      split
      · rename_i hlt
        exact answers_before h hx hy hys hw hlt
      · rename_i hnlt
        exact answers_after hrules h hx hy hw (Ne.symm hne) hnlt fun c hc =>
          answers_insertion hrules hw hx hys (Nat.le_of_succ_le_succ hn) hc

/-! ## Queries -/

theorem width_le_two (hi : i ∈ [lists, maps]) : i.width ≤ 2 := by
  rcases List.mem_cons.1 hi with rfl | hi
  · decide
  · rcases List.mem_singleton.1 hi with rfl
    decide

def query (i : Insertion) (x : Item) (l : List Item) : Call := i.call (i.term x) (i.listOf l) (.var "R" 0)

theorem namedOf_query (hx : i.Admits x) (hl : ∀ y ∈ l, i.Admits y) :
    Term.namedOf (i.query x l).args = [("R", 0)] := by
  have hargs : (i.query x l).args = [⟨none, i.term x⟩, ⟨none, i.listOf l⟩, ⟨none, .var "R" 0⟩] := rfl
  rw [hargs, Term.namedOf, Term.namedOf, Term.namedOf, Term.named_eq_nil (ground_term hx),
    Term.named_eq_nil (ground_listOf hl)]
  rfl

/-- **Putting an item into a list has one solution**: the list with the item put into it. -/
theorem exists_hasOnly_query {σ : Type} (e : Query.Engine σ) (w : σ) (s : Session) {owner : Nat} {md : RuleModule}
    (hi : i ∈ [lists, maps]) (hlib : e.library.module? 0 = some systemModule)
    (hm : e.library.module? owner = some md) (hknown : i.Known e.library owner md) (hs : s.isCancelled = false)
    (hx : i.Admits x) (hl : ∀ y ∈ l, i.Admits y) :
    ∃ q, Query.ofGoal e.library owner (i.query x l) ⟨["R"]⟩ = .ok q ∧
      q.HasOnly e w s [("R", i.listOf (put Item.key x l))] := by
  have hrules : Query.rulesOf e.library 0 i.index = i.rules := Query.rulesOf_system (inSystem hi) hlib
  obtain ⟨callee, hg, hplace⟩ := resolveGoal_of_known hknown (i.term x) (i.listOf l) (.var "R" 0)
  have hasks : i.Asks (Query.entryBindings (i.query x l) ⟨["R"]⟩) x l x.parts (i.listOf l) 0 := by
    refine ⟨Bindings.map_walk hx.not_isVar, Bindings.walk_of_not_isVar (i.isVar_listOf l), ?_, ?_⟩
    · unfold Query.entryBindings
      rw [Bindings.lookup?_allocate]
      rfl
    · unfold Query.entryBindings
      rw [Bindings.size_allocate]
      exact Nat.lt_of_lt_of_le Nat.one_pos (Nat.le_trans (Nat.le_max_left 1 _) (Nat.le_add_left _ _))
  have hgives : Gives (Query.entryBindings (i.query x l) ⟨["R"]⟩) (i.answers e.library s.valueOf? l.length (i.query x l)
      (Query.entryBindings (i.query x l) ⟨["R"]⟩)) "R" 0 (i.listOf (put Item.key x l)) :=
    answers_insertion hrules (width_le_two hi) hx hl (Nat.le_refl l.length) hasks
  obtain ⟨c, hc, -, hresult⟩ := hgives
  -- two arguments have no variables, and the third is the first variable of the query: the call is run as it is
  have hargs (env : Expr.Env) : Term.instantiateArgs env 0 (i.query x l).args = .ok (i.query x l).args := by
    have hargs : (i.query x l).args = [⟨none, i.term x⟩, ⟨none, i.listOf l⟩, ⟨none, .var "R" 0⟩] := rfl
    simp only [hargs, Term.instantiateArgs, Term.instantiate_of_isGround env 0 (ground_term hx),
      Term.instantiate_of_isGround env 0 (ground_listOf hl)]
    rfl
  have hanswers : Answers.ofGoal s.valueOf? (Answers.ofCall e.library s.valueOf? (l.length + 1)) ⟨owner, ⟨["R"]⟩, 0⟩
      (.call callee (i.query x l)) (Query.entryBindings (i.query x l) ⟨["R"]⟩) = .answer c .exhausted := by
    rw [← hc, Answers.ofGoal, hargs]
    exact ofCall_of_place hplace hrules _ _
  obtain ⟨q, hq, honly⟩ := Query.exists_hasOnly e owner (i.query x l) ⟨["R"]⟩ w s hm hg
    (Query.logical_of_place hlib hplace _) hs hanswers
  refine ⟨q, hq, ?_⟩
  have hsolution : Query.solutionUnder (firstNames (Term.namedOf (i.query x l).args)) c =
      [("R", i.listOf (put Item.key x l))] := by
    rw [namedOf_query hx hl, ← hresult (c.size + 1) (by omega)]
    rfl
  rw [← hsolution]
  exact honly

end Insertion

namespace Query

def numbers (l : List Int64) : Term := .list (l.map fun n => .const (.int n)) .nil

def pair (p : Int64 × Term) : Term := .compound "kv" [⟨none, .const (.int p.1)⟩, ⟨none, p.2⟩]

def pairs (l : List (Int64 × Term)) : Term := .list (l.map pair) .nil

def addToList (x : Int64) (l : List Int64) : Call :=
  ⟨"AddToList", [⟨none, .const (.int x)⟩, ⟨none, numbers l⟩, ⟨none, .var "R" 0⟩]⟩

def addToMap (p : Int64 × Term) (l : List (Int64 × Term)) : Call :=
  ⟨"AddToMap", [⟨none, pair p⟩, ⟨none, pairs l⟩, ⟨none, .var "R" 0⟩]⟩

def itemOf (n : Int64) : Item := ⟨n, []⟩

def itemOfPair (p : Int64 × Term) : Item := ⟨p.1, [p.2]⟩

theorem listOf_numbers (l : List Int64) : Insertion.lists.listOf (l.map itemOf) = numbers l := by
  unfold Insertion.listOf numbers
  rw [List.map_map]
  rfl

theorem listOf_pairs (l : List (Int64 × Term)) : Insertion.maps.listOf (l.map itemOfPair) = pairs l := by
  unfold Insertion.listOf pairs
  rw [List.map_map]
  rfl

theorem mem_put_numbers {x n : Int64} {l : List Int64} (h : l.Pairwise (· < ·)) :
    n ∈ put id x l ↔ n = x ∨ n ∈ l := by
  have hmem : n ∈ put id x l ↔ n = x ∨ n ∈ l ∧ n ≠ x := mem_put h
  rw [hmem]
  refine ⟨Or.imp_right And.left, fun h => ?_⟩
  by_cases hne : n = x
  · exact .inl hne
  · exact .inr ⟨h.resolve_left hne, hne⟩

variable {σ : Type}

/-- **Sorted insertion.**  Let a module know the name, and let nothing be cancelled.  Then `AddToList(x, l, ?R)` has one
solution for every ascending list of whole numbers: the ascending list of `x` and the numbers of `l`.  And
`AddToMap(kv(k, v), l, ?R)` has one solution for every list of pairs with ascending keys: the list with ascending keys
in which `k` has the value `v`, and all other pairs are those of `l`. -/
theorem sorted_insertion (e : Engine σ) (w : σ) (s : Session) {owner : Nat} {md : RuleModule}
    (hlib : e.library.module? 0 = some systemModule) (hm : e.library.module? owner = some md)
    (hs : s.isCancelled = false) :
    (Insertion.lists.Known e.library owner md → ∀ (x : Int64) (l : List Int64), l.Pairwise (· < ·) →
      ∃ r : List Int64, r.Pairwise (· < ·) ∧ (∀ n, n ∈ r ↔ n = x ∨ n ∈ l) ∧
        ∃ q, ofGoal e.library owner (addToList x l) ⟨["R"]⟩ = .ok q ∧ q.HasOnly e w s [("R", numbers r)]) ∧
    (Insertion.maps.Known e.library owner md → ∀ (k : Int64) (v : Term) (l : List (Int64 × Term)),
      v.isGround = true → (∀ p ∈ l, p.2.isGround = true) → l.Pairwise (fun p p' => p.1 < p'.1) →
        ∃ r : List (Int64 × Term), r.Pairwise (fun p p' => p.1 < p'.1) ∧
          (∀ p, p ∈ r ↔ p = (k, v) ∨ p ∈ l ∧ p.1 ≠ k) ∧
          ∃ q, ofGoal e.library owner (addToMap (k, v) l) ⟨["R"]⟩ = .ok q ∧ q.HasOnly e w s [("R", pairs r)]) := by
  constructor
  · intro hknown x l hl
    refine ⟨put id x l, ascending_put hl, fun n => mem_put_numbers hl, ?_⟩
    have hadmits : ∀ n : Int64, Insertion.lists.Admits (itemOf n) := fun _ => ⟨rfl, List.forall_mem_nil _⟩
    have hquery := Insertion.exists_hasOnly_query e w s List.mem_cons_self hlib hm hknown hs (hadmits x)
      (List.forall_mem_map.2 fun n (_ : n ∈ l) => hadmits n)
    have hkey : ∀ n, (itemOf n).key = id n := fun _ => rfl
    have hput : (put id x l).map itemOf = put Item.key (itemOf x) (l.map itemOf) := map_put hkey l
    rw [← hput, listOf_numbers] at hquery
    unfold Insertion.query at hquery
    rw [listOf_numbers] at hquery
    exact hquery
  · intro hknown k v l hv hl hasc
    refine ⟨put Prod.fst (k, v) l, ascending_put hasc, fun p => mem_put hasc, ?_⟩
    have hadmits : ∀ p : Int64 × Term, p.2.isGround = true → Insertion.maps.Admits (itemOfPair p) := fun _ hp =>
      ⟨rfl, List.forall_mem_singleton.2 hp⟩
    have hquery := Insertion.exists_hasOnly_query e w s (List.mem_cons_of_mem _ List.mem_cons_self) hlib hm hknown hs
      (hadmits (k, v) hv) (List.forall_mem_map.2 fun p hp => hadmits p (hl p hp))
    have hkey : ∀ p, (itemOfPair p).key = p.1 := fun _ => rfl
    have hput : (put Prod.fst (k, v) l).map itemOfPair = put Item.key (itemOfPair (k, v)) (l.map itemOfPair) :=
      map_put hkey l
    rw [← hput, listOf_pairs] at hquery
    unfold Insertion.query at hquery
    rw [listOf_pairs] at hquery
    exact hquery

/-- On behalf of the second module, `2` goes into `[1, 3]`; on behalf of the system library, the value of `1` is
replaced in `[kv(1, "old"), kv(4, "other")]`. -/
theorem sorted_insertion_shelf :
    (∃ q, ofGoal shelf.library 1 (addToList 2 [1, 3]) ⟨["R"]⟩ = .ok q ∧
      q.HasOnly shelf () .new [("R", numbers [1, 2, 3])]) ∧
    ∃ q, ofGoal shelf.library 0 (addToMap (1, .const (.string "new"))
        [(1, .const (.string "old")), (4, .const (.string "other"))]) ⟨["R"]⟩ = .ok q ∧
      q.HasOnly shelf () .new [("R", pairs [(1, .const (.string "new")), (4, .const (.string "other"))])] := by
  constructor
  · have hknown : Insertion.lists.Known shelf.library 1 ⟨"shelf", [], [], .none⟩ :=
      Insertion.known_of_unknown List.mem_cons_self rfl rfl rfl
    have hascending : [(1 : Int64), 3].Pairwise (· < ·) := by decide
    obtain ⟨r, hr, hmem, hquery⟩ := (sorted_insertion shelf () .new rfl rfl rfl).1 hknown 2 [1, 3] hascending
    have heq : r = put id 2 [1, 3] :=
      eq_of_ascending hr (ascending_put hascending) fun n => (hmem n).trans (mem_put_numbers hascending).symm
    rw [heq] at hquery
    exact hquery
  · have hknown : Insertion.maps.Known shelf.library 0 systemModule :=
      Insertion.known_system (List.mem_cons_of_mem _ List.mem_cons_self)
    let old : List (Int64 × Term) := [(1, .const (.string "old")), (4, .const (.string "other"))]
    have hascending : old.Pairwise fun p p' => p.1 < p'.1 := by
      refine List.pairwise_pair.2 ?_
      decide
    have hground : ∀ p ∈ old, p.2.isGround = true := List.forall_mem_cons.2 ⟨rfl, List.forall_mem_singleton.2 rfl⟩
    obtain ⟨r, hr, hmem, hquery⟩ := (sorted_insertion shelf () .new rfl rfl rfl).2 hknown 1
      (.const (.string "new")) old rfl hground hascending
    have heq : r = put Prod.fst (1, .const (.string "new")) old :=
      eq_of_ascending hr (ascending_put hascending) fun p => (hmem p).trans (mem_put hascending).symm
    rw [heq] at hquery
    exact hquery

end Query

end Remedy
