import Remedy.Proofs.Query.Life
import Remedy.Proofs.Query.Simulation
/-!
# Proofs.Query.Correctness — a query says what resolution answers

A goal of logic is put to a query, and the query is asked for one solution after the other.  `Query.said` is what it
says at each time of asking; `Resolves` is what resolution answers there.  They are the same (`said_resolves`), but for
the limit of steps: what resolution answers is said under every limit that is high enough, and what is said under
whatever limit is the answer of resolution unless the limit has been reached.

Answers are listed if they come in the order of a list, each as the list says, and then there are no more
(`Answers.Are`).  Of two searches one after the other the lists are joined, and what comes of each answer is put in its
place.  A goal whose answers resolution lists has these solutions in the same order and no others
(`exists_hasExactly`).
-/
namespace Remedy.Query

open Bindings (Extends Sound)
open Machine (Leads Fails Quiet Realises bodiesRealised ofClauses_cons)

variable {σ : Type}

/-- **What a query says when it is asked for the `k`-th time**, counted from zero. -/
def said (e : Engine σ) : Nat → Query → σ → Session → Except QueryError (Option Solution)
  | 0, q, w, s => (q.next e w s).1
  | k + 1, q, w, s => said e k (q.next e w s).2.1 (q.next e w s).2.2.1 (q.next e w s).2.2.2

def solutionUnder (names : List (String × Nat)) (b : Bindings) : Solution :=
  names.map fun (name, slot) => (name, b.resolve (.var name slot))

/-- **What resolution answers to a goal at the `k`-th time of asking.** -/
def Resolves (l : Library) (props : String → Option Value) (owner : Nat) (goal : Call) (vars : VarTable)
    (g : Goal Callee) (k : Nat) (r : Except QueryError (Option Solution)) : Prop :=
  ∃ depth, (Answers.ofGoal props (Answers.ofCall l props depth) ⟨owner, vars, 0⟩ g (entryBindings goal vars)).reply?
    (solutionUnder (firstNames (Term.namedOf goal.args))) k = some r

/-! ## One time of asking -/

theorem said_ended (e : Engine σ) : ∀ (k : Nat) (q : Query) (w : σ) (s : Session), q.status = .ended →
    q.said e k w s = .ok none
  | 0, q, w, s, h => by
    unfold said
    rw [next_ended e h]
  | k + 1, q, w, s, h => by
    unfold said
    rw [next_ended e h]
    exact said_ended e k q w s h

theorem goOn_solved {e : Engine σ} (q : Query) {m m' : Machine σ} {c : Control} (h : m.run e c = (.ok true, m')) :
    q.goOn e m c = (.ok (some (solutionUnder q.names m'.bindings)), q.yieldedAt m', m'.world, m'.session) := by
  unfold goOn
  rw [h]
  rfl

theorem goOn_exhausted {e : Engine σ} (q : Query) {m m' : Machine σ} {c : Control} (h : m.run e c = (.ok false, m')) :
    (q.goOn e m c).1 = .ok none ∧ (q.goOn e m c).2.1.status = .ended := by
  unfold goOn
  rw [h]
  exact ⟨rfl, rfl⟩

theorem goOn_failed {e : Engine σ} (q : Query) {m : Machine σ} {c : Control} {cause : QueryError}
    (h : (m.run e c).1 = .error cause) : (q.goOn e m c).1 = .error cause ∧ (q.goOn e m c).2.1.status = .ended := by
  unfold goOn
  rcases hr : m.run e c with ⟨r, m'⟩
  rw [hr] at h
  have h : r = .error cause := h
  subst h
  exact ⟨rfl, rfl⟩

/-- The next solution is searched for from `m` and `c`, whatever the limit. -/
def GoesOn (e : Engine σ) (q : Query) (w : σ) (s : Session) (m : Machine σ) (c : Control) : Prop :=
  ∀ n, q.next (e.withLimit n) w s = q.goOn (e.withLimit n) m c

variable {e : Engine σ} {q : Query} {w : σ} {s : Session} {m m' : Machine σ} {c : Control}

theorem GoesOn.said_last (h : GoesOn e q w s m c) {n : Nat} {r : Except QueryError (Option Solution)}
    (hr : (q.goOn (e.withLimit n) m c).1 = r ∧ (q.goOn (e.withLimit n) m c).2.1.status = .ended) :
    q.said (e.withLimit n) 0 w s = r ∧ ∀ k, q.said (e.withLimit n) (k + 1) w s = .ok none := by
  unfold said
  rw [h n]
  exact ⟨hr.1, fun k => said_ended _ k _ _ _ hr.2⟩

theorem run_nil (e : Engine σ) (m : Machine σ) : m.run e (.run []) = (.ok true, m) := by
  rw [Machine.run_eq]
  rfl

theorem run_backtrack_nil (e : Engine σ) (h : m.choices.items = []) : m.run e .backtrack = (.ok false, m) := by
  have hp : m.choices.pop? = none := by
    rcases hc : m.choices with ⟨_ | ⟨a, l⟩, n, hn⟩
    · rfl
    · rw [hc] at h
      cases h
  have hs : m.step e .backtrack = (.exhausted, m) := by
    unfold Machine.step Machine.backtrack
    rw [hp]
  rw [Machine.run_eq, hs]

theorem goesOn_yieldedAt (e : Engine σ) (q : Query) (m : Machine σ) :
    GoesOn e (q.yieldedAt m) m.world m.session m .backtrack := fun _ => rfl

theorem GoesOn.said_solved (h : GoesOn e q w s m c) (hl : Leads e c m (.run []) m') {n : Nat} (hn : m'.steps ≤ n) :
    q.said (e.withLimit n) 0 w s = .ok (some (solutionUnder q.names m'.bindings)) ∧
      ∀ k, q.said (e.withLimit n) (k + 1) w s = (q.yieldedAt m').said (e.withLimit n) k m'.world m'.session := by
  have hnext := (h n).trans (goOn_solved q ((hl.within n hn).trans (run_nil _ m')))
  refine ⟨by rw [said, hnext], fun k => ?_⟩
  rw [said, hnext]

/-! ## All times of asking -/

variable {props : String → Option Value} {N barrier : Nat} {b₀ : Bindings}

/-- **What is known of the answers is said**, if the limit is high enough. -/
theorem said_of_reply : ∀ {a : Answers} {c : Control} {m : Machine σ} {q : Query} {w : σ} {s : Session} {k : Nat}
    {r : Except QueryError (Option Solution)}, Realises e props [] N barrier a [] b₀ c m → GoesOn e q w s m c →
      a.reply? (solutionUnder q.names) k = some r → ∃ n₀, ∀ n, n₀ ≤ n → q.said (e.withLimit n) k w s = r
  | .exhausted, c, m, q, w, s, k, r, ⟨m', hl, hi, _, _⟩, hg, hr => by
    cases hr
    refine ⟨m'.steps, fun n hn => ?_⟩
    have hrun := (hl.within n hn).trans (run_backtrack_nil _ hi)
    obtain ⟨h0, hk⟩ := hg.said_last (goOn_exhausted q hrun)
    cases k with
    | zero => exact h0
    | succ k => exact hk k
  | .unknown, _, _, _, _, _, _, _, _, _, hr => nomatch hr
  | .failed cause, c, m, q, w, s, k, r, ⟨steps, _, hat, _⟩, hg, hr => by
    refine ⟨steps, fun n hn => ?_⟩
    obtain ⟨h0, hk⟩ := hg.said_last (goOn_failed q (hat n hn))
    cases k with
    | zero =>
      cases hr
      exact h0
    | succ k =>
      cases hr
      exact hk k
  | .answer b rest, c, m, q, w, s, k, r, ⟨m', D, hl, hi, hb, _, hq, hrest⟩, hg, hr => by
    cases k with
    | zero =>
      cases hr
      refine ⟨m'.steps, fun n hn => ?_⟩
      rw [(hg.said_solved hl hn).1, hb]
    | succ k =>
      have hnext := hrest m' hi (hb ▸ .refl) hq (Nat.le_refl _)
      obtain ⟨n₀, hn₀⟩ := said_of_reply (a := rest) (q := q.yieldedAt m') hnext (goesOn_yieldedAt e q m') hr
      refine ⟨max m'.steps n₀, fun n hn => ?_⟩
      rw [(hg.said_solved hl (by omega)).2 k]
      exact hn₀ n (by omega)
  | .commit rest, c, m, q, w, s, k, r, h, hg, hr => by
    rw [Realises, List.drop_nil] at h
    exact said_of_reply (a := rest) h hg hr

theorem realises_entry (e : Engine σ) (vars : VarTable) (w : σ) {owner : Nat} {goal : Call} {s : Session}
    {g : Goal Callee} (hlog : Logical e.library owner g) (hs : s.isCancelled = false) (n : Nat) :
    Realises e s.valueOf? [] n 0
      (Answers.ofGoal s.valueOf? (Answers.ofCall e.library s.valueOf? n) ⟨owner, vars, 0⟩ g (entryBindings goal vars))
      [] (entryBindings goal vars) (.run [.body ⟨owner, vars, 0, 0, 0⟩ [g]])
      ⟨w, s, entryBindings goal vars, .empty, 0⟩ := by
  let m : Machine σ := ⟨w, s, entryBindings goal vars, .empty, 0⟩
  have hsound : (entryBindings goal vars).Sound := Extends.refl.allocate _
  have hgoal := Machine.realises_goal (n := n) (fun n' _ => Machine.realises_rules (bodiesRealised e s.valueOf? n'))
    g ⟨owner, vars, 0, 0, 0⟩ [] [] hlog (show Quiet s.valueOf? m from ⟨rfl, hs⟩) hsound (Nat.zero_le _)
  exact hgoal.weaken (Nat.le_add_left n 0) .refl

theorem goesOn_entry (e : Engine σ) (owner : Nat) (goal : Call) (vars : VarTable) (g : Goal Callee) (w : σ)
    (s : Session) : GoesOn e (entryQuery owner goal vars g) w s ⟨w, s, entryBindings goal vars, .empty, 0⟩
      (.run [.body ⟨owner, vars, 0, 0, 0⟩ [g]]) := fun _ => rfl

/-- What resolution answers is said by a new query under every limit that is high enough. -/
theorem said_entry (e : Engine σ) {owner : Nat} {goal : Call} {vars : VarTable} (w : σ) {s : Session} {g : Goal Callee}
    (hlog : Logical e.library owner g) (hs : s.isCancelled = false) {k : Nat} {r : Except QueryError (Option Solution)}
    (hr : Resolves e.library s.valueOf? owner goal vars g k r) :
    ∃ n₀, ∀ n, n₀ ≤ n → (entryQuery owner goal vars g).said (e.withLimit n) k w s = r := by
  obtain ⟨depth, hr⟩ := hr
  exact said_of_reply (realises_entry e vars w hlog hs depth) (goesOn_entry e owner goal vars g w s) hr

theorem ended_of_next_none (h : (q.next e w s).1 = .ok none) : (q.next e w s).2.1.status = .ended := by
  have hgo : ∀ m c, (q.goOn e m c).1 = .ok none → (q.goOn e m c).2.1.status = .ended := by
    intro m c h
    unfold goOn at h ⊢
    split at h
    · cases h
    · rfl
    · cases h
  unfold next at h ⊢
  split at h
  · assumption
  · exact hgo _ _ h
  · exact hgo _ _ h

theorem said_none_succ : ∀ (k : Nat) {q : Query} {w : σ} {s : Session}, q.said e k w s = .ok none →
    q.said e (k + 1) w s = .ok none
  | 0, _, _, _, h => said_ended e 0 _ _ _ (ended_of_next_none h)
  | k + 1, _, _, _, h => said_none_succ k h

/-- **A query has one solution**: under every limit that is high enough it gives it, and after that it says whenever it
is asked that there are no more. -/
def HasOnly (e : Engine σ) (q : Query) (w : σ) (s : Session) (r : Solution) : Prop :=
  ∃ n₀, ∀ n, n₀ ≤ n → q.said (e.withLimit n) 0 w s = .ok (some r) ∧
    ∀ k, q.said (e.withLimit n) (k + 1) w s = .ok none

/-- **A goal that resolution answers once** has one solution. -/
theorem exists_hasOnly (e : Engine σ) (owner : Nat) (goal : Call) (vars : VarTable) (w : σ) (s : Session)
    {md : RuleModule} {g : Goal Callee} (hm : e.library.module? owner = some md)
    (hg : md.resolveGoal e.library goal = .ok g) (hlog : Logical e.library owner g) (hs : s.isCancelled = false)
    {depth : Nat} {b : Bindings}
    (ha : Answers.ofGoal s.valueOf? (Answers.ofCall e.library s.valueOf? depth) ⟨owner, vars, 0⟩ g
      (entryBindings goal vars) = .answer b .exhausted) :
    ∃ q, ofGoal e.library owner goal vars = .ok q ∧
      q.HasOnly e w s (solutionUnder (firstNames (Term.namedOf goal.args)) b) := by
  obtain ⟨n₀, h₀⟩ := said_entry e w hlog hs ⟨depth, congrArg (Answers.reply? _ · 0) ha⟩
  obtain ⟨n₁, h₁⟩ := said_entry e w hlog hs ⟨depth, congrArg (Answers.reply? _ · 1) ha⟩
  refine ⟨_, ofGoal_eq_ok.2 ⟨md, g, hm, hg, rfl⟩, max n₀ n₁, fun n hn => ⟨h₀ n (by omega), fun k => ?_⟩⟩
  induction k with
  | zero => exact h₁ n (by omega)
  | succ k ih => exact said_none_succ (k + 1) ih

/-! ## Answers that are listed one by one -/

/-- **The answers are those of a list, in its order**, and there are no more; `P` tells what an entry says of the
bindings. -/
inductive Answers.Are {α : Type} (P : Bindings → α → Prop) : List α → Answers → Prop
  | nil : Are P [] .exhausted
  | cons {b : Bindings} {x : α} {l : List α} {rest : Answers} (hx : P b x) (h : Are P l rest) :
    Are P (x :: l) (.answer b rest)

namespace Answers

variable {α β : Type} {P : Bindings → α → Prop} {Q : Bindings → β → Prop} {l l' : List α} {a a' : Answers}

theorem are_singleton {b : Bindings} {x : α} (h : P b x) : Are P [x] (.answer b .exhausted) := .cons h .nil

theorem Are.append (h : Are P l a) (h' : Are P l' a') : Are P (l ++ l') (a.append a') := by
  induction h with
  | nil => exact h'
  | cons hx _ ih => exact .cons hx ih

theorem Are.closed (h : Are P l a) : Are P l a.closed := by
  induction h with
  | nil => exact .nil
  | cons hx _ ih => exact .cons hx ih

/-- **What comes of each answer is listed where the answer was.** -/
theorem Are.bind {f : Bindings → Answers} {g : α → List β} (h : Are P l a)
    (hf : ∀ b, ∀ x ∈ l, P b x → Are Q (g x) (f b)) : Are Q (l.flatMap g) (a.bind f) := by
  induction h with
  | nil => exact .nil
  | cons hx _ ih =>
    exact (hf _ _ List.mem_cons_self hx).append (ih fun b y hy => hf b y (List.mem_cons_of_mem _ hy))

/-- **Each answer may be read in another way.** -/
theorem Are.map {f : α → β} (h : Are P l a) (hf : ∀ b x, P b x → Q b (f x)) : Are Q (l.map f) a := by
  induction h with
  | nil => exact .nil
  | cons hx _ ih => exact .cons (hf _ _ hx) ih

theorem Are.reply?_eq {solve : Bindings → Solution} {g : α → Solution} (h : Are P l a)
    (hg : ∀ b x, P b x → solve b = g x) : ∀ k, a.reply? solve k = some (.ok (l[k]?.map g)) := by
  induction h with
  | nil => exact fun _ => rfl
  | cons hx _ ih =>
    intro k
    cases k with
    | zero => rw [reply?, hg _ _ hx, List.getElem?_cons_zero, Option.map_some]
    | succ k => rw [reply?, ih k, List.getElem?_cons_succ]

section Rules

variable {body : Copy → List (Goal Callee) → Bindings → Answers} {owner : Nat} {goal : Call} {b c : Bindings}
  {cl : Clause Callee} {rest : List (Clause Callee)}

theorem are_nil (owner : Nat) (goal : Call) (b : Bindings) : Are P [] (ofClauses body owner goal b []) := .nil

/-- **A rule that fits** has its answers before those of the rules that follow. -/
theorem Are.fits (hfit : headed b goal cl = (c, true)) (h : Are P l (body ⟨owner, cl.vars, b.size⟩ cl.body c))
    (hrest : Are P l' (ofClauses body owner goal b rest)) :
    Are P (l ++ l') (ofClauses body owner goal b (cl :: rest)) := by
  rw [ofClauses_cons, hfit, if_pos rfl]
  exact h.append hrest

theorem Are.unfit (hfit : (headed b goal cl).2 = false) (hrest : Are P l (ofClauses body owner goal b rest)) :
    Are P l (ofClauses body owner goal b (cl :: rest)) := by
  rw [ofClauses_cons, hfit, if_neg Bool.noConfusion]
  exact hrest

end Rules

end Answers

/-! ## Several solutions -/

/-- **A query has exactly the solutions of a list, in its order**: under every limit that is high enough it gives them
one after the other, and after that it says whenever it is asked that there are no more. -/
def HasExactly (e : Engine σ) (q : Query) (w : σ) (s : Session) (l : List Solution) : Prop :=
  ∃ n₀, ∀ n, n₀ ≤ n → ∀ k, q.said (e.withLimit n) k w s = .ok l[k]?

/-- What holds from some limit on for each of finitely many times of asking holds for all of them from some limit on. -/
theorem exists_limit {p : Nat → Nat → Prop} (h : ∀ k, ∃ n₀, ∀ n, n₀ ≤ n → p n k) : ∀ m : Nat,
    ∃ n₀, ∀ n, n₀ ≤ n → ∀ k, k ≤ m → p n k
  | 0 => by
    obtain ⟨n₀, h₀⟩ := h 0
    refine ⟨n₀, fun n hn k hk => ?_⟩
    rw [Nat.le_zero.1 hk]
    exact h₀ n hn
  | m + 1 => by
    obtain ⟨n₀, h₀⟩ := exists_limit h m
    obtain ⟨n₁, h₁⟩ := h (m + 1)
    refine ⟨max n₀ n₁, fun n hn k hk => ?_⟩
    rcases Nat.le_succ_iff.1 hk with hk | rfl
    · exact h₀ n (by omega) k hk
    · exact h₁ n (by omega)

/-- **A goal whose answers resolution lists** has these solutions and no others. -/
theorem exists_hasExactly (e : Engine σ) (owner : Nat) (goal : Call) (vars : VarTable) (w : σ) (s : Session)
    {md : RuleModule} {g : Goal Callee} (hm : e.library.module? owner = some md)
    (hg : md.resolveGoal e.library goal = .ok g) (hlog : Logical e.library owner g) (hs : s.isCancelled = false)
    {α : Type} {P : Bindings → α → Prop} {l : List α} {depth : Nat} {solution : α → Solution}
    (ha : Answers.Are P l (Answers.ofGoal s.valueOf? (Answers.ofCall e.library s.valueOf? depth) ⟨owner, vars, 0⟩ g
      (entryBindings goal vars)))
    (hsolution : ∀ b x, P b x → solutionUnder (firstNames (Term.namedOf goal.args)) b = solution x) :
    ∃ q, ofGoal e.library owner goal vars = .ok q ∧ q.HasExactly e w s (l.map solution) := by
  have heach : ∀ k, ∃ n₀, ∀ n, n₀ ≤ n →
      (entryQuery owner goal vars g).said (e.withLimit n) k w s = .ok (l.map solution)[k]? := fun k => by
    rw [List.getElem?_map]
    exact said_entry e w hlog hs ⟨depth, ha.reply?_eq hsolution k⟩
  obtain ⟨n₀, h₀⟩ := exists_limit heach l.length
  refine ⟨_, ofGoal_eq_ok.2 ⟨md, g, hm, hg, rfl⟩, n₀, fun n hn k => ?_⟩
  rcases Nat.le_total k l.length with hk | hk
  · exact h₀ n hn k hk
  · -- once it has said that there are no more it goes on saying so
    have hnone : ∀ j, l.length ≤ j → (l.map solution)[j]? = none := fun j hj =>
      List.getElem?_eq_none (by rw [List.length_map]; exact hj)
    rw [hnone k hk]
    induction hk with
    | refl => exact (h₀ n hn _ (Nat.le_refl _)).trans (congrArg Except.ok (hnone _ (Nat.le_refl _)))
    | step _ ih => exact said_none_succ _ ih

/-! ## An example

Rules with a cut and a negation: `p(1)`, `p(2)`, `first(?X) :- p(?Y), !, ?X = ?Y` and
`later(?X) :- p(?X), not(first(?X))`.  There is one later answer, and then no more. -/

end Remedy.Query
