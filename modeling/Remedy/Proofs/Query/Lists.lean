import Mathlib.Algebra.Group.Nat.Defs
import Remedy.Proofs.Query.Correctness
import Remedy.Proofs.Query.Matching
import Remedy.Proofs.Query.System
/-!
# Proofs.Query.Lists — lists are split, joined, searched, measured and reversed

A list is given, and of the other arguments one or two are open.  By induction on the list the answers of a call are
listed: at the end of the list one rule fits, and before it the other, whose answers are those of the call for the rest
of the list, each with the first item added to it; `append` and `member` have an answer of their own at each place as
well.  So calls are nested no deeper than the list is long, and queries have the solutions that one expects
(`list_solutions`).
-/
namespace Remedy

namespace Lists

open Bindings (Extends Open)
open Query (Copy Answers headed ofCall_system)

variable {lib : Library} {props : String → Option Value}

theorem inSystem_append : append.InSystem 1 := inSystem rfl rfl rfl rfl

theorem inSystem_member : member.InSystem 2 := inSystem rfl rfl rfl rfl

theorem inSystem_length : length.InSystem 3 := inSystem rfl rfl rfl rfl

theorem inSystem_reverse : reverse.InSystem 4 := inSystem rfl rfl rfl rfl

theorem inSystem_reversing : reversing.InSystem 5 := inSystem rfl rfl rfl rfl

/-! ## A pair of rules -/

section Pair

variable {α : Type} {P : Bindings → α → Prop} {l l' : List α} {p : Predicate} {index depth : Nat} {goal : Call}
  {b c c' : Bindings} {cl cl' : Clause Callee}

/-- The answers of the goals of a rule that has been taken. -/
def bodyAnswers (lib : Library) (props : String → Option Value) (depth : Nat) (b : Bindings) (cl : Clause Callee)
    (c : Bindings) : Answers :=
  Answers.ofBody props (Answers.ofCall lib props depth) ⟨0, cl.vars, b.size⟩ cl.body c

theorem are_both (hp : p.InSystem index) (hlib : lib.module? 0 = some systemModule) (hpair : p.clauses = [cl, cl'])
    (hfit : headed b goal cl = (c, true)) (hfit' : headed b goal cl' = (c', true))
    (h : Answers.Are P l (bodyAnswers lib props depth b cl c))
    (h' : Answers.Are P l' (bodyAnswers lib props depth b cl' c')) :
    Answers.Are P (l ++ l') (Answers.ofCall lib props (depth + 1) 0 (.own index) goal b) := by
  rw [ofCall_system hp hlib, hpair, ← List.append_nil l']
  have hlast := Answers.Are.fits hfit' h' (Answers.are_nil 0 goal b)
  exact (Answers.Are.fits hfit h hlast).closed

theorem are_first (hp : p.InSystem index) (hlib : lib.module? 0 = some systemModule) (hpair : p.clauses = [cl, cl'])
    (hfit : headed b goal cl = (c, true)) (hunfit : (headed b goal cl').2 = false)
    (h : Answers.Are P l (bodyAnswers lib props depth b cl c)) :
    Answers.Are P l (Answers.ofCall lib props (depth + 1) 0 (.own index) goal b) := by
  rw [ofCall_system hp hlib, hpair, ← List.append_nil l]
  exact (Answers.Are.fits hfit h (Answers.Are.unfit hunfit (Answers.are_nil 0 goal b))).closed

theorem are_second (hp : p.InSystem index) (hlib : lib.module? 0 = some systemModule) (hpair : p.clauses = [cl, cl'])
    (hunfit : (headed b goal cl).2 = false) (hfit : headed b goal cl' = (c, true))
    (h : Answers.Are P l (bodyAnswers lib props depth b cl' c)) :
    Answers.Are P l (Answers.ofCall lib props (depth + 1) 0 (.own index) goal b) := by
  rw [ofCall_system hp hlib, hpair, ← List.append_nil l]
  exact (Answers.Are.unfit hunfit (Answers.Are.fits hfit h (Answers.are_nil 0 goal b))).closed

theorem are_none (hp : p.InSystem index) (hlib : lib.module? 0 = some systemModule) (hpair : p.clauses = [cl, cl'])
    (hunfit : (headed b goal cl).2 = false) (hunfit' : (headed b goal cl').2 = false) :
    Answers.Are P [] (Answers.ofCall lib props (depth + 1) 0 (.own index) goal b) := by
  rw [ofCall_system hp hlib, hpair]
  exact (Answers.Are.unfit hunfit (Answers.Are.unfit hunfit' (Answers.are_nil 0 goal b))).closed

end Pair

/-! ## Splitting and joining -/

/-- **All the ways to split a list in two**, from the shortest front. -/
def splits {α : Type} (l : List α) : List (List α × List α) :=
  (List.range (l.length + 1)).map fun k => (l.take k, l.drop k)

theorem splits_cons {α : Type} (x : α) (l : List α) :
    splits (x :: l) = [([], x :: l)] ++ (splits l).map fun p => (x :: p.1, p.2) := by
  unfold splits
  rw [List.length_cons, List.range_succ_eq_map, List.map_cons, List.map_map, List.map_map]
  rfl

/-- **With both of its first arguments open `append` splits a list** in all the ways there are. -/
theorem are_splits (hlib : lib.module? 0 = some systemModule) : ∀ {l : List Term} {depth : Nat} {b : Bindings}
    {t : Term} (m n : String) {i j : Nat}, l.length < depth → b.Open i → b.Open j → i ≠ j → b.Denotes t (.list l .nil) →
      Answers.Are (Splits b (.var m i) (.var n j)) (splits l)
        (Answers.ofCall lib props depth 0 (.own 1) ⟨"append", positional [.var m i, .var n j, t]⟩ b)
  | _, 0, _, _, _, _, _, _, hl, _, _, _, _ => nomatch hl
  | [], depth + 1, b, t, m, n, i, j, _, hi, hj, hne, ht => by
    obtain ⟨c, hfit, hc⟩ := fit_splitNil hi hj hne ht
    exact are_first inSystem_append hlib rfl hfit (unfit_splitCell hi hj hne ht) (Answers.are_singleton hc)
  | x :: l, depth + 1, b, t, m, n, i, j, hl, hi, hj, hne, ht => by
    obtain ⟨c', hfit', hc'⟩ := fit_splitNil hi hj hne ht
    obtain ⟨c, hfit, hbc, hXs, hYs, hZs, hback⟩ := fit_splitCell hi hj hne ht
    have hcall : bodyAnswers lib props depth b appendCell c = Answers.ofCall lib props depth 0 (.own 1)
        ⟨"append", positional [.var "Xs" (1 + b.size), .var "Ys" (2 + b.size), .var "Zs" (3 + b.size)]⟩ c :=
      ofBody_goal props _ _ (fun _ => rfl) c
    have hrest := are_splits hlib "Xs" "Ys" (Nat.lt_of_succ_lt_succ hl) hXs hYs (by omega) hZs
    rw [← hcall] at hrest
    rw [splits_cons]
    refine are_both inSystem_append hlib rfl hfit' hfit (Answers.are_singleton hc') (hrest.map fun d p hd => ?_)
    obtain ⟨hfront, hrear⟩ := hback d _ _ hd.extended hd.front hd.back
    exact ⟨hbc.trans hd.extended, hfront, hrear⟩

/-- **With both of its first arguments given `append` joins them**: the items of a list are put before a term. -/
theorem are_joined (hlib : lib.module? 0 = some systemModule) {u : Term} : ∀ {l : List Term} {depth : Nat}
    {b : Bindings} {s t : Term} (m : String) {i : Nat}, l.length < depth → b.Open i → b.Denotes t (.list l .nil) →
      b.Denotes s u → Answers.Are (Gives b (.var m i)) [.list l u]
        (Answers.ofCall lib props depth 0 (.own 1) ⟨"append", positional [t, s, .var m i]⟩ b)
  | _, 0, _, _, _, _, _, hl, _, _, _ => nomatch hl
  | [], depth + 1, b, s, t, m, i, _, hi, ht, hs => by
    obtain ⟨c, hfit, hc⟩ := fit_restNil hi ht hs "append"
    exact are_first inSystem_append hlib rfl hfit (unfit_nil (by rfl) ht _ _) (Answers.are_singleton hc)
  | x :: l, depth + 1, b, s, t, m, i, hl, hi, ht, hs => by
    obtain ⟨c, hfit, hbc, hXs, hYs, hZs, hback⟩ := fit_joinCell hi ht hs
    have hcall : bodyAnswers lib props depth b appendCell c = Answers.ofCall lib props depth 0 (.own 1)
        ⟨"append", positional [.var "Xs" (1 + b.size), .var "Ys" (2 + b.size), .var "Zs" (3 + b.size)]⟩ c :=
      ofBody_goal props _ _ (fun _ => rfl) c
    have hrest := are_joined hlib "Zs" (Nat.lt_of_succ_lt_succ hl) hZs hXs hYs
    rw [← hcall] at hrest
    have hall : Answers.Are (Gives b (.var m i)) ([.list l u].map fun v => .cell x v) _ :=
      hrest.map fun d v hd => ⟨hbc.trans hd.extended, hback d v hd.extended hd.denotes⟩
    exact are_second inSystem_append hlib rfl (unfit_cell rfl ht) hfit hall

/-! ## Searching -/

/-- **With its first argument open `member` gives the items of a list** one after the other. -/
theorem are_members (hlib : lib.module? 0 = some systemModule) : ∀ {l : List Term} {depth : Nat} {b : Bindings}
    {t : Term} (m : String) {i : Nat}, l.length < depth → b.Open i → b.Denotes t (.list l .nil) →
      Answers.Are (Gives b (.var m i)) l
        (Answers.ofCall lib props depth 0 (.own 2) ⟨"member", positional [.var m i, t]⟩ b)
  | _, 0, _, _, _, _, hl, _, _ => nomatch hl
  | [], depth + 1, b, t, m, i, _, hi, ht =>
    are_none inSystem_member hlib rfl (unfit_member hi ht _ _ _ (by decide) _) (unfit_member hi ht _ _ _ (by decide) _)
  | x :: l, depth + 1, b, t, m, i, hl, hi, ht => by
    obtain ⟨c', hfit', hc'⟩ := fit_memberFirst hi ht
    obtain ⟨c, hfit, hbc, hX, hXs, hback⟩ := fit_memberRest hi ht
    have hcall : bodyAnswers lib props depth b memberRest c = Answers.ofCall lib props depth 0 (.own 2)
        ⟨"member", positional [.var "X" (0 + b.size), .var "Xs" (2 + b.size)]⟩ c :=
      ofBody_goal props _ _ (fun _ => rfl) c
    have hrest := are_members hlib "X" (Nat.lt_of_succ_lt_succ hl) hX hXs
    rw [← hcall] at hrest
    have hall : Answers.Are (Gives b (.var m i)) (l.map id) _ :=
      hrest.map fun d v hd => ⟨hbc.trans hd.extended, hback d v hd.extended hd.denotes⟩
    rw [List.map_id] at hall
    exact are_both inSystem_member hlib rfl hfit' hfit (Answers.are_singleton hc') hall

/-! ## Reversing -/

/-- **What has been reversed is put after the reverse of the list.** -/
theorem are_reversing (hlib : lib.module? 0 = some systemModule) : ∀ {l acc : List Term} {depth : Nat} {b : Bindings}
    {s t : Term} (m : String) {i : Nat}, l.length < depth → b.Open i → b.Denotes t (.list l .nil) →
      b.Denotes s (.list acc .nil) → Answers.Are (Gives b (.var m i)) [.list (l.reverse ++ acc) .nil]
        (Answers.ofCall lib props depth 0 (.own 5) ⟨"_reverse", positional [t, s, .var m i]⟩ b)
  | _, _, 0, _, _, _, _, _, hl, _, _, _ => nomatch hl
  | [], acc, depth + 1, b, s, t, m, i, _, hi, ht, hs => by
    obtain ⟨c, hfit, hc⟩ := fit_restNil hi ht hs "_reverse"
    exact are_first inSystem_reversing hlib rfl hfit (unfit_nil (by rfl) ht _ _) (Answers.are_singleton hc)
  | x :: l, acc, depth + 1, b, s, t, m, i, hl, hi, ht, hs => by
    obtain ⟨c, hfit, hbc, hXs, hA, hYs, hback⟩ := fit_reversingCell hi ht hs
    have hcall : bodyAnswers lib props depth b reversingCell c = Answers.ofCall lib props depth 0 (.own 5)
        ⟨"_reverse", positional [.var "Xs" (1 + b.size), .cell (.var "X" (0 + b.size)) (.var "A" (2 + b.size)),
          .var "Ys" (3 + b.size)]⟩ c := ofBody_goal props _ _ (fun _ => rfl) c
    have hcons : c.Denotes (.cell (.var "X" (0 + b.size)) (.var "A" (2 + b.size))) (.list (x :: acc) .nil) := hA
    have hrest := are_reversing hlib "Ys" (Nat.lt_of_succ_lt_succ hl) hYs hXs hcons
    rw [← hcall] at hrest
    rw [List.reverse_cons, List.append_assoc, List.singleton_append]
    have hall : Answers.Are (Gives b (.var m i)) ([.list (l.reverse ++ x :: acc) .nil].map id) _ :=
      hrest.map fun d v hd => ⟨hbc.trans hd.extended, hback d v hd.extended hd.denotes⟩
    exact are_second inSystem_reversing hlib rfl (unfit_cell rfl ht) hfit hall

/-- **`reverse` gives the list turned round.** -/
theorem are_reversed (hlib : lib.module? 0 = some systemModule) {l : List Term} {depth : Nat} {b : Bindings} {t : Term}
    (m : String) {i : Nat} (hl : l.length < depth) (hi : b.Open i) (ht : b.Denotes t (.list l .nil)) :
    Answers.Are (Gives b (.var m i)) [.list l.reverse .nil]
      (Answers.ofCall lib props (depth + 1) 0 (.own 4) ⟨"reverse", positional [t, .var m i]⟩ b) := by
  obtain ⟨c, hfit, hbc, hXs, hYs, hback⟩ := fit_reverseAll hi ht
  have hcall : bodyAnswers lib props depth b reverseAll c = Answers.ofCall lib props depth 0 (.own 5)
      ⟨"_reverse", positional [.var "Xs" (0 + b.size), .nil, .var "Ys" (1 + b.size)]⟩ c :=
    ofBody_goal props _ _ (fun _ => rfl) c
  have hnil : c.Denotes .nil (.list [] .nil) := Bindings.denotes_self rfl
  have hall : Answers.Are (Gives b (.var m i)) ([.list (l.reverse ++ []) .nil].map id)
      (bodyAnswers lib props depth b reverseAll c) := by
    rw [hcall]
    exact (are_reversing hlib "Ys" hl hYs hXs hnil).map fun d v hd =>
      ⟨hbc.trans hd.extended, hback d v hd.extended hd.denotes⟩
  rw [List.append_nil] at hall
  have hlist : reverse.clauses = [reverseAll] := rfl
  rw [ofCall_system inSystem_reverse hlib, hlist, ← List.append_nil [Term.list l.reverse .nil]]
  exact (Answers.Are.fits hfit hall (Answers.are_nil 0 _ b)).closed

/-! ## Measuring -/

theorem view?_of_denotes {b : Bindings} {name : String} {i : Nat} {v : Value}
    (h : b.Denotes (.var name i) (.const v)) : b.view? name i = some v := by
  unfold Bindings.view?
  rw [h.walk_eq_const]

/-- **One more**, as long as the sum is a number of 64 bits. -/
theorem add_one {k : Nat} (hk : k + 1 < 2 ^ 63) (w : Func.Surroundings) :
    Func.apply w .add [.int (Int64.ofNat k), .int 1] = .ok (.int (Int64.ofNat (k + 1))) := by
  have hfits : Func.fitting .add ((Int64.ofNat k).toInt + (1 : Int64).toInt) = .ok (Int64.ofNat (k + 1)) := by
    have hsum : (Int64.ofNat k).toInt + (1 : Int64).toInt = ((k + 1 : Nat) : Int) := by
      rw [Int64.toInt_ofNat_of_lt (by omega)]
      rfl
    unfold Func.fitting
    rw [hsum, Int64.ofInt_eq_ofNat, if_pos]
    rw [Bool.and_eq_true, decide_eq_true_iff, decide_eq_true_iff]
    omega
  have happly : Func.apply w .add [.int (Int64.ofNat k), .int 1] =
      ((Func.fitting .add ((Int64.ofNat k).toInt + (1 : Int64).toInt)).bind .ok).map .int := rfl
  rw [happly, hfits]
  rfl

theorem value_length {b : Bindings} {base k : Nat} (hk : k + 1 < 2 ^ 63)
    (hZ : b.Denotes (.var "Z" (3 + base)) (.const (.int (Int64.ofNat k)))) :
    Copy.value props ⟨0, lengthCell.vars, base⟩ b (.call .add [.var "Z", .literal (.int 1)]) =
      .ok (.int (Int64.ofNat (k + 1))) := by
  have hslot : lengthCell.vars.slot? "Z" = some 3 := by decide
  unfold Copy.value
  simp only [Expr.eval, Expr.evalAll, Copy.env, hslot, Option.bind_some, view?_of_denotes hZ, Option.getD_some,
    add_one hk]
  rfl

/-- **The number of the rest gives that of the list.** -/
theorem are_succ {b c d : Bindings} {m : String} {i k depth : Nat} (hk : k + 1 < 2 ^ 63) (hbc : Extends b c)
    (hlink : c.lookup? i = some (.var "Y" (2 + b.size))) (hY : c.Open (2 + b.size))
    (hopen : ∀ j, b.Open j → j ≠ i → c.Open j) (hd : Counts c "Z" (3 + b.size) d k) :
    Answers.Are (Counts b m i) [k + 1] (Answers.ofBody props (Answers.ofCall lib props depth) ⟨0, lengthCell.vars, b.size⟩
      [.is (.var "Y" 2) (.call .add [.var "Z", .literal (.int 1)])] d) := by
  have hY' := hd.open_ _ hY (by omega)
  obtain ⟨d', hd', hresult⟩ := Bindings.exists_takes_open hY'
    (Eq.refl (Term.const (.int (Int64.ofNat (k + 1)))).isVar)
  have hunify : d.unify (.var "Y" (2 + b.size)) (.const (.int (Int64.ofNat (k + 1)))) = (d', true) :=
    Bindings.unifyAll_of_solves hd'.solves (by decide)
  have hgoal : Answers.ofGoal props (Answers.ofCall lib props depth) ⟨0, lengthCell.vars, b.size⟩
      (.is (.var "Y" 2) (.call .add [.var "Z", .literal (.int 1)])) d = .answer d' .exhausted := by
    have hterm : Copy.term props ⟨0, lengthCell.vars, b.size⟩ d (.var "Y" 2) = .ok (.var "Y" (2 + b.size)) := rfl
    simp only [Answers.ofGoal, value_length hk hd.denotes, hterm, Answers.ofUnify, hunify]
    rfl
  rw [Answers.ofBody, hgoal]
  refine Answers.are_singleton ⟨hbc.trans (hd.extended.trans hd'.extended), ?_, fun j hj hne => ?_⟩
  · exact Bindings.denotes_var ((hd.extended.trans hd'.extended).lookup?_eq hlink)
      (Bindings.denotes_var hresult (Bindings.denotes_self rfl))
  · have hlt := hj.lt
    exact hd'.open_one (hd.open_ j (hopen j hj hne) (by omega)) (by omega)

/-- **`length` gives the number of items**, as long as it is a number of 64 bits. -/
theorem are_counts (hlib : lib.module? 0 = some systemModule) : ∀ {l : List Term} {depth : Nat} {b : Bindings}
    {t : Term} (m : String) {i : Nat}, l.length < 2 ^ 63 → l.length < depth → b.Open i → b.Denotes t (.list l .nil) →
      Answers.Are (Counts b m i) [l.length]
        (Answers.ofCall lib props depth 0 (.own 3) ⟨"length", positional [t, .var m i]⟩ b)
  | _, 0, _, _, _, _, _, hl, _, _ => nomatch hl
  | [], depth + 1, b, t, m, i, _, _, hi, ht => by
    obtain ⟨c, hfit, hc⟩ := fit_lengthNil hi ht
    exact are_first inSystem_length hlib rfl hfit (unfit_nil (by rfl) ht _ _) (Answers.are_singleton hc)
  | x :: l, depth + 1, b, t, m, i, hmax, hl, hi, ht => by
    obtain ⟨c, hfit, hbc, hXs, hY, hZ, hlink, hopen⟩ := fit_lengthCell hi ht
    have hrest := are_counts hlib "Z" (Nat.lt_of_succ_lt hmax) (Nat.lt_of_succ_lt_succ hl) hZ hXs
    have hall : Answers.Are (Counts b m i) ([l.length].flatMap fun k => [k + 1])
        (bodyAnswers lib props depth b lengthCell c) := by
      have hcall : Answers.ofGoal props (Answers.ofCall lib props depth) ⟨0, lengthCell.vars, b.size⟩
          (goal 3 "length" [.var "Xs" 1, .var "Z" 3]) c = Answers.ofCall lib props depth 0 (.own 3)
            ⟨"length", positional [.var "Xs" (1 + b.size), .var "Z" (3 + b.size)]⟩ c :=
        ofGoal_goal props _ _ (fun _ => rfl) c
      have hbody : lengthCell.body = [goal 3 "length" [.var "Xs" 1, .var "Z" 3],
        .is (.var "Y" 2) (.call .add [.var "Z", .literal (.int 1)])] := rfl
      unfold bodyAnswers
      rw [hbody, Answers.ofBody, hcall]
      refine hrest.bind fun d k hk hd => ?_
      rw [List.mem_singleton.1 hk] at hd ⊢
      exact are_succ hmax hbc hlink hY hopen hd
    exact are_second inSystem_length hlib rfl (unfit_cell rfl ht) hfit hall

end Lists

/-! ## Queries -/

theorem Term.instantiateArgs_zero (env : Expr.Env) : ∀ {ts : List Term},
    (∀ t ∈ ts, t.isVar = true ∨ t.isGround = true) → instantiateArgs env 0 (positional ts) = .ok (positional ts)
  | [], _ => rfl
  | t :: ts, h => by
    obtain ⟨ht, hts⟩ := List.forall_mem_cons.1 h
    have hrest := instantiateArgs_zero env hts
    have hself : t.instantiate env 0 = .ok t := by
      rcases ht with ht | ht
      · cases t with
        | var _ _ => rfl
        | const _ | compound _ _ | template _ | nil => cases ht
      · exact instantiate_of_isGround env 0 ht
    unfold positional at hrest ⊢
    rw [List.map_cons, instantiateArgs, hself, hrest]
    rfl

namespace Query

open Remedy.Lists (Gives Splits splits)

variable {σ : Type}

theorem open_entry {goal : Call} {vars : VarTable} {i : Nat} (hi : i < vars.size) :
    (entryBindings goal vars).Open i :=
  Bindings.open_new (Nat.lt_of_lt_of_le hi (Nat.le_max_left _ _))

def splitting (l : List Term) : Call := ⟨"append", positional [.var "A" 0, .var "B" 1, .list l .nil]⟩

def joining (l m : List Term) : Call := ⟨"append", positional [.list l .nil, .list m .nil, .var "R" 0]⟩

def searching (l : List Term) : Call := ⟨"member", positional [.var "X" 0, .list l .nil]⟩

def reversing (l : List Term) : Call := ⟨"reverse", positional [.list l .nil, .var "R" 0]⟩

def measuring (l : List Term) : Call := ⟨"length", positional [.list l .nil, .var "N" 0]⟩

section Solutions

variable (e : Engine σ) (w : σ) (s : Session) {owner : Nat} {md : RuleModule}
  (hlib : e.library.module? 0 = some systemModule) (hm : e.library.module? owner = some md) (hs : s.isCancelled = false)

include hlib hm hs

/-- **A query for a predicate of the system library** has the solutions that its answers list. -/
theorem exists_hasExactly_system {name : String} {index : Nat} (hknown : md.Knows e.library owner name index)
    {ts : List Term} (hts : ∀ t ∈ ts, t.isVar = true ∨ t.isGround = true) (vars : VarTable) {α : Type}
    {P : Bindings → α → Prop} {l : List α} {depth : Nat} (solution : α → Solution)
    (ha : Answers.Are P l (Answers.ofCall e.library s.valueOf? depth 0 (.own index) ⟨name, positional ts⟩
      (entryBindings ⟨name, positional ts⟩ vars)))
    (hsolution : ∀ b x, P b x → solutionUnder (firstNames (Term.namedOf (positional ts))) b = solution x) :
    ∃ q, ofGoal e.library owner ⟨name, positional ts⟩ vars = .ok q ∧ q.HasExactly e w s (l.map solution) := by
  obtain ⟨callee, hg, hplace⟩ := RuleModule.resolveGoal_of_knows (c := ⟨name, positional ts⟩) hknown
  have hgoal : Answers.Are P l (Answers.ofGoal s.valueOf? (Answers.ofCall e.library s.valueOf? depth) ⟨owner, vars, 0⟩
      (.call callee ⟨name, positional ts⟩) (entryBindings ⟨name, positional ts⟩ vars)) := by
    rw [Answers.ofGoal]
    simp only [Term.instantiateArgs_zero _ hts]
    rw [ofCall_of_place hplace]
    exact ha
  exact exists_hasExactly e owner ⟨name, positional ts⟩ vars w s hm hg (logical_of_place hlib hplace _) hs hgoal
    hsolution

/-- **With one argument open** the solutions are what the answers give for it. -/
theorem exists_hasExactly_one {name : String} {index : Nat} (hknown : md.Knows e.library owner name index)
    {ts : List Term} (hts : ∀ t ∈ ts, t.isVar = true ∨ t.isGround = true) {m : String}
    (hnamed : Term.namedOf (positional ts) = [(m, 0)]) {l : List Term} {depth : Nat}
    (ha : Answers.Are (Gives (entryBindings ⟨name, positional ts⟩ ⟨[m]⟩) (.var m 0)) l
      (Answers.ofCall e.library s.valueOf? depth 0 (.own index) ⟨name, positional ts⟩
        (entryBindings ⟨name, positional ts⟩ ⟨[m]⟩))) :
    ∃ q, ofGoal e.library owner ⟨name, positional ts⟩ ⟨[m]⟩ = .ok q ∧ q.HasExactly e w s (l.map fun u => [(m, u)]) := by
  refine exists_hasExactly_system e w s hlib hm hs hknown hts ⟨[m]⟩ (fun u => [(m, u)]) ha fun b u hb => ?_
  rw [hnamed, ← hb.denotes.resolve_eq]
  rfl

variable {l : List Term} (hl : ∀ t ∈ l, t.isGround = true)

include hl

theorem exists_splitting (hknown : md.Knows e.library owner "append" 1) :
    ∃ q, ofGoal e.library owner (splitting l) ⟨["A", "B"]⟩ = .ok q ∧
      q.HasExactly e w s ((List.range (l.length + 1)).map fun k =>
        [("A", .list (l.take k) .nil), ("B", .list (l.drop k) .nil)]) := by
  have hground := Term.isGround_list hl
  have hts : ∀ t ∈ [.var "A" 0, .var "B" 1, .list l .nil], Term.isVar t = true ∨ t.isGround = true :=
    List.forall_mem_cons.2 ⟨.inl rfl, List.forall_mem_cons.2 ⟨.inl rfl, List.forall_mem_singleton.2 (.inr hground)⟩⟩
  have hnamed : Term.namedOf (positional [.var "A" 0, .var "B" 1, .list l .nil]) = [("A", 0), ("B", 1)] :=
    congrArg (("A", 0) :: ("B", 1) :: ·) ((List.append_nil _).trans (Term.named_eq_nil hground))
  have hsolutions := exists_hasExactly_system e w s hlib hm hs hknown hts ⟨["A", "B"]⟩
    (fun p => [("A", .list p.1 .nil), ("B", .list p.2 .nil)])
    (Lists.are_splits hlib "A" "B" (Nat.lt_succ_self l.length) (open_entry (by decide)) (open_entry (by decide))
      (by decide) (Bindings.denotes_self hground))
    fun b p hp => by
      rw [hnamed, ← hp.front.resolve_eq, ← hp.back.resolve_eq]
      rfl
  unfold splits at hsolutions
  rw [List.map_map] at hsolutions
  exact hsolutions

theorem exists_joining (hknown : md.Knows e.library owner "append" 1) {m : List Term}
    (hm' : ∀ t ∈ m, t.isGround = true) :
    ∃ q, ofGoal e.library owner (joining l m) ⟨["R"]⟩ = .ok q ∧
      q.HasExactly e w s [[("R", .list (l ++ m) .nil)]] := by
  have hground := Term.isGround_list hl
  have hground' := Term.isGround_list hm'
  have hts : ∀ t ∈ [.list l .nil, .list m .nil, .var "R" 0], Term.isVar t = true ∨ t.isGround = true :=
    List.forall_mem_cons.2 ⟨.inr hground, List.forall_mem_cons.2 ⟨.inr hground', List.forall_mem_singleton.2 (.inl rfl)⟩⟩
  have hnamed : Term.namedOf (positional [.list l .nil, .list m .nil, .var "R" 0]) = [("R", 0)] := by
    unfold positional
    rw [List.map_cons, List.map_cons, Term.namedOf, Term.namedOf, Term.named_eq_nil hground,
      Term.named_eq_nil hground']
    rfl
  have hjoined : Term.list l (.list m .nil) = .list (l ++ m) .nil := List.foldr_append.symm
  rw [← hjoined]
  exact exists_hasExactly_one e w s hlib hm hs hknown hts hnamed
    (Lists.are_joined hlib "R" (Nat.lt_succ_self l.length) (open_entry (by decide)) (Bindings.denotes_self hground)
      (Bindings.denotes_self hground'))

theorem exists_searching (hknown : md.Knows e.library owner "member" 2) :
    ∃ q, ofGoal e.library owner (searching l) ⟨["X"]⟩ = .ok q ∧ q.HasExactly e w s (l.map fun x => [("X", x)]) := by
  have hground := Term.isGround_list hl
  have hts : ∀ t ∈ [.var "X" 0, .list l .nil], Term.isVar t = true ∨ t.isGround = true :=
    List.forall_mem_cons.2 ⟨.inl rfl, List.forall_mem_singleton.2 (.inr hground)⟩
  have hnamed : Term.namedOf (positional [.var "X" 0, .list l .nil]) = [("X", 0)] :=
    congrArg (("X", 0) :: ·) ((List.append_nil _).trans (Term.named_eq_nil hground))
  exact exists_hasExactly_one e w s hlib hm hs hknown hts hnamed
    (Lists.are_members hlib "X" (Nat.lt_succ_self l.length) (open_entry (by decide)) (Bindings.denotes_self hground))

theorem exists_reversing (hknown : md.Knows e.library owner "reverse" 4) :
    ∃ q, ofGoal e.library owner (reversing l) ⟨["R"]⟩ = .ok q ∧
      q.HasExactly e w s [[("R", .list l.reverse .nil)]] := by
  have hground := Term.isGround_list hl
  have hts : ∀ t ∈ [.list l .nil, .var "R" 0], Term.isVar t = true ∨ t.isGround = true :=
    List.forall_mem_cons.2 ⟨.inr hground, List.forall_mem_singleton.2 (.inl rfl)⟩
  have hnamed : Term.namedOf (positional [.list l .nil, .var "R" 0]) = [("R", 0)] :=
    congrArg (· ++ [("R", 0)]) (Term.named_eq_nil hground)
  exact exists_hasExactly_one e w s hlib hm hs hknown hts hnamed
    (Lists.are_reversed hlib "R" (Nat.lt_succ_self l.length) (open_entry (by decide)) (Bindings.denotes_self hground))

theorem exists_measuring (hknown : md.Knows e.library owner "length" 3) (hmax : l.length < 2 ^ 63) :
    ∃ q, ofGoal e.library owner (measuring l) ⟨["N"]⟩ = .ok q ∧
      q.HasExactly e w s [[("N", .const (.int (Int64.ofNat l.length)))]] := by
  have hground := Term.isGround_list hl
  have hts : ∀ t ∈ [.list l .nil, .var "N" 0], Term.isVar t = true ∨ t.isGround = true :=
    List.forall_mem_cons.2 ⟨.inr hground, List.forall_mem_singleton.2 (.inl rfl)⟩
  have hnamed : Term.namedOf (positional [.list l .nil, .var "N" 0]) = [("N", 0)] :=
    congrArg (· ++ [("N", 0)]) (Term.named_eq_nil hground)
  have hcounts : Answers.Are (Lists.Counts (entryBindings (measuring l) ⟨["N"]⟩) "N" 0) [l.length]
      (Answers.ofCall e.library s.valueOf? (l.length + 1) 0 (.own 3) (measuring l)
        (entryBindings (measuring l) ⟨["N"]⟩)) :=
    Lists.are_counts hlib "N" hmax (Nat.lt_succ_self l.length) (open_entry (by decide)) (Bindings.denotes_self hground)
  have hgives : ∀ b k, Lists.Counts (entryBindings (measuring l) ⟨["N"]⟩) "N" 0 b k →
      Gives (entryBindings (measuring l) ⟨["N"]⟩) (.var "N" 0) b (.const (.int (Int64.ofNat k))) :=
    fun b k hk => ⟨hk.extended, hk.denotes⟩
  exact exists_hasExactly_one e w s hlib hm hs hknown hts hnamed (hcounts.map hgives)

/-- **The list library.**  Let nothing be cancelled, and let a module know the names.  Then for every list of terms
without variables `append(?A, ?B, l)` has as many solutions as there are ways to split `l`, from the shortest front to
the longest; `append(l, m, ?R)` has one, the items of `l` and then those of `m`; `member(?X, l)` gives the items in their
order; `reverse(l, ?R)` has one solution, the items in the opposite order; and so has `length(l, ?N)`, the number of
items, which a number of 64 bits can tell.  After these there are no more. -/
theorem list_solutions :
    (md.Knows e.library owner "append" 1 →
      (∃ q, ofGoal e.library owner (splitting l) ⟨["A", "B"]⟩ = .ok q ∧
        q.HasExactly e w s ((List.range (l.length + 1)).map fun k =>
          [("A", .list (l.take k) .nil), ("B", .list (l.drop k) .nil)])) ∧
      ∀ m : List Term, (∀ t ∈ m, t.isGround = true) → ∃ q, ofGoal e.library owner (joining l m) ⟨["R"]⟩ = .ok q ∧
        q.HasExactly e w s [[("R", .list (l ++ m) .nil)]]) ∧
    (md.Knows e.library owner "member" 2 → ∃ q, ofGoal e.library owner (searching l) ⟨["X"]⟩ = .ok q ∧
      q.HasExactly e w s (l.map fun x => [("X", x)])) ∧
    (md.Knows e.library owner "reverse" 4 → ∃ q, ofGoal e.library owner (reversing l) ⟨["R"]⟩ = .ok q ∧
      q.HasExactly e w s [[("R", .list l.reverse .nil)]]) ∧
    (md.Knows e.library owner "length" 3 → l.length < 2 ^ 63 →
      ∃ q, ofGoal e.library owner (measuring l) ⟨["N"]⟩ = .ok q ∧
        q.HasExactly e w s [[("N", .const (.int (Int64.ofNat l.length)))]]) :=
  ⟨fun hknown => ⟨exists_splitting e w s hlib hm hs hl hknown,
      fun _ hm' => exists_joining e w s hlib hm hs hl hknown hm'⟩,
    exists_searching e w s hlib hm hs hl, exists_reversing e w s hlib hm hs hl, exists_measuring e w s hlib hm hs hl⟩

end Solutions

/-- On behalf of a module without rules, `[1, 2]` is split, put before `[3]` and turned round; on behalf of the system
library its items are found and counted. -/
theorem list_solutions_shelf :
    let one : Term := .const (.int 1)
    let two : Term := .const (.int 2)
    let three : Term := .const (.int 3)
    (∃ q, ofGoal shelf.library 1 (splitting [one, two]) ⟨["A", "B"]⟩ = .ok q ∧
      q.HasExactly shelf () .new [[("A", .nil), ("B", .list [one, two] .nil)],
        [("A", .list [one] .nil), ("B", .list [two] .nil)], [("A", .list [one, two] .nil), ("B", .nil)]]) ∧
    (∃ q, ofGoal shelf.library 1 (joining [one, two] [three]) ⟨["R"]⟩ = .ok q ∧
      q.HasExactly shelf () .new [[("R", .list [one, two, three] .nil)]]) ∧
    (∃ q, ofGoal shelf.library 1 (reversing [one, two]) ⟨["R"]⟩ = .ok q ∧
      q.HasExactly shelf () .new [[("R", .list [two, one] .nil)]]) ∧
    (∃ q, ofGoal shelf.library 0 (searching [one, two]) ⟨["X"]⟩ = .ok q ∧
      q.HasExactly shelf () .new [[("X", one)], [("X", two)]]) ∧
    ∃ q, ofGoal shelf.library 0 (measuring [one, two]) ⟨["N"]⟩ = .ok q ∧
      q.HasExactly shelf () .new [[("N", two)]] := by
  intro one two three
  have hground : ∀ t ∈ [one, two], t.isGround = true :=
    List.forall_mem_cons.2 ⟨rfl, List.forall_mem_singleton.2 rfl⟩
  have hknown (p : Predicate) {index : Nat} (hp : p.InSystem index) (hpublic : p.isPublic = true)
      (hb : Scope.builtin? p.name = none) :
      RuleModule.Knows shelf.library 1 ⟨"shelf", [], [], .none⟩ p.name index :=
    RuleModule.knows_of_unknown hp hpublic rfl rfl rfl hb
  have happend := hknown Lists.append Lists.inSystem_append rfl rfl
  have hreverse := hknown Lists.reverse Lists.inSystem_reverse rfl rfl
  have hmember := RuleModule.knows_system (l := shelf.library) Lists.inSystem_member
  have hlength := RuleModule.knows_system (l := shelf.library) Lists.inSystem_length
  have hsystem : shelf.library.module? 0 = some systemModule := rfl
  have hshelf : shelf.library.module? 1 = some ⟨"shelf", [], [], .none⟩ := rfl
  obtain ⟨hsplits, -, hreversed, -⟩ := list_solutions shelf () .new hsystem hshelf rfl hground
  obtain ⟨-, hmembers, -, hcounts⟩ := list_solutions shelf () .new hsystem hsystem rfl hground
  obtain ⟨hsplit, hjoin⟩ := hsplits happend
  have hthree : ∀ t ∈ [three], t.isGround = true := List.forall_mem_singleton.2 rfl
  exact ⟨hsplit, hjoin [three] hthree, hreversed hreverse, hmembers hmember, hcounts hlength (by decide)⟩

end Query

end Remedy
