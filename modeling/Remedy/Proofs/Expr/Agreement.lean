import Mathlib.Data.List.Forall2
import Remedy.Expr.Eval
/-!
# Proofs.Expr.Agreement — evaluations that differ in what they quote

Two evaluations agree if they have the same value, or fail for the same cause; the calls that they quote then are in
some relation (`Agree`).  A call is evaluated in one of four ways (`form`): argument by argument up to one that settles
it, as a choice between two arguments, as the reading of a property, or after all its arguments.  In each of them the
calls of one function agree if their arguments do (`Agree.call`).
-/
namespace Remedy.Expr

/-- **Two evaluations agree**: they have one value, or both have none for one cause, and `quoted` relates the calls that
they quote. -/
inductive Agree {α : Type} (quoted : Expr → Expr → Prop) : Except EvalError α → Except EvalError α → Prop
  | value (a : α) : Agree quoted (.ok a) (.ok a)
  | error {c c' : Expr} (cause : FunctionError) (h : quoted c c') : Agree quoted (.error ⟨c, cause⟩) (.error ⟨c', cause⟩)

variable {α : Type} {quoted quoted' : Expr → Expr → Prop} {env env' : Env} {f : Func} {args args' : List Expr}
  {r r' : Except EvalError α}

theorem Agree.refl (h : ∀ c, quoted c c) : ∀ r : Except EvalError α, Agree quoted r r
  | .ok a => .value a
  | .error ⟨c, cause⟩ => .error cause (h c)

theorem Agree.trans {r'' : Except EvalError α} (hq : ∀ c c' c'', quoted c c' → quoted c' c'' → quoted c c'')
    (h : Agree quoted r r') (h' : Agree quoted r' r'') : Agree quoted r r'' := by
  cases h with
  | value a => exact h'
  | error cause hc =>
    cases h' with
    | error _ hc' => exact .error cause (hq _ _ _ hc hc')

theorem Agree.imp (hq : ∀ c c', quoted c c' → quoted' c c') (h : Agree quoted r r') : Agree quoted' r r' := by
  cases h with
  | value a => exact .value a
  | error cause hc => exact .error cause (hq _ _ hc)

theorem Agree.ok_iff (h : Agree quoted r r') (a : α) : r = .ok a ↔ r' = .ok a := by
  cases h with
  | value b => exact Iff.rfl
  | error => exact ⟨nofun, nofun⟩

theorem Agree.eq (h : Agree Eq r r') : r = r' := by
  cases h with
  | value a => rfl
  | error cause hc => rw [hc]

/-- What holds of constants, variables, and calls of expressions of which it holds, holds of all expressions. -/
@[elab_as_elim]
theorem induction {P : Expr → Prop} (literal : ∀ v, P (.literal v)) (var : ∀ name, P (.var name))
    (call : ∀ f args, (∀ a ∈ args, P a) → P (.call f args)) : ∀ e, P e
  | .literal v => literal v
  | .var name => var name
  | .call f args => call f args (all args)
where
  all : ∀ args : List Expr, ∀ a ∈ args, P a
    | [] => List.forall_mem_nil _
    | a :: rest => List.forall_mem_cons.2 ⟨induction literal var call a, all rest⟩

/-! ## Ways to evaluate a call -/

/-- The truth value at which the arguments of a call need not be evaluated any further. -/
def stop? : Func → Option Bool
  | .and => some false
  | .or => some true
  | _ => none

/-- A call of so many arguments is evaluated after all of them. -/
def isStrict (f : Func) (n : Nat) : Bool :=
  (stop? f).isNone && !(f == .iif && n == 3) && !(f == .get && n == 1)

/-- **How a call is evaluated.** -/
inductive Form : Func → List Expr → Prop
  | gate {f : Func} {stop : Bool} (h : stop? f = some stop) (args : List Expr) : Form f args
  | branch (c a b : Expr) : Form .iif [c, a, b]
  | read (a : Expr) : Form .get [a]
  | strict {f : Func} {args : List Expr} (h : isStrict f args.length = true) : Form f args

theorem form (f : Func) (args : List Expr) : Form f args := by
  cases hstop : stop? f with
  | some stop => exact .gate hstop args
  | none =>
    by_cases hiif : f = .iif ∧ args.length = 3
    · obtain ⟨rfl, hlength⟩ := hiif
      obtain ⟨c, a, b, rfl⟩ := List.length_eq_three.1 hlength
      exact .branch c a b
    · by_cases hget : f = .get ∧ args.length = 1
      · obtain ⟨rfl, hlength⟩ := hget
        obtain ⟨a, rfl⟩ := List.length_eq_one_iff.1 hlength
        exact .read a
      · refine .strict ?_
        simpa [isStrict, hstop, ← not_and_or] using And.intro hiif hget

theorem eval_gate {stop : Bool} (h : stop? f = some stop) :
    eval env (.call f args) = evalUntil env (.call f args) f stop args := by
  cases f <;> cases h <;> rw [eval]

theorem eval_strict (h : isStrict f args.length = true) : eval env (.call f args) =
    match evalAll env args with
    | .error e => .error e
    | .ok vs => inCall (.call f args) (f.apply env.surroundings vs) := by
  refine eval.eq_7 env f args ?_ ?_ ?_ ?_
  · rintro rfl
    cases h
  · rintro rfl
    cases h
  · rintro c a b rfl rfl
    cases h
  · rintro a rfl rfl
    cases h

/-! ## Calls agree if their arguments do -/

theorem Agree.inCall {c c' : Expr} {r : Except FunctionError α} (h : (∀ a, r ≠ .ok a) → quoted c c') :
    Agree quoted (inCall c r) (inCall c' r) := by
  cases r with
  | ok a => exact .value a
  | error cause => exact .error cause (h nofun)

theorem Agree.evalAll (h : List.Forall₂ (fun a a' => Agree quoted (eval env a) (eval env' a')) args args') :
    Agree quoted (evalAll env args) (evalAll env' args') := by
  induction h with
  | nil =>
    rw [Expr.evalAll, Expr.evalAll]
    exact .value []
  | @cons a a' rest rest' ha _ ih =>
    rw [Expr.evalAll, Expr.evalAll]
    generalize eval env a = r, eval env' a' = r' at ha
    generalize Expr.evalAll env rest = rs, Expr.evalAll env' rest' = rs' at ih
    cases ha with
    | error cause hq => exact .error cause hq
    | value v =>
      cases ih with
      | error cause hq => exact .error cause hq
      | value vs => exact .value (v :: vs)

theorem Agree.evalUntil {c c' : Expr} {stop : Bool}
    (h : List.Forall₂ (fun a a' => Agree quoted (eval env a) (eval env' a')) args args')
    (hq : (∀ v, evalUntil env c f stop args ≠ .ok v) → quoted c c') :
    Agree quoted (evalUntil env c f stop args) (evalUntil env' c' f stop args') := by
  induction h with
  | nil =>
    rw [Expr.evalUntil, Expr.evalUntil]
    exact .value _
  | @cons a a' rest rest' ha _ ih =>
    rw [Expr.evalUntil] at hq ⊢
    rw [Expr.evalUntil]
    generalize eval env a = r, eval env' a' = r' at ha hq
    cases ha with
    | error cause hc => exact .error cause hc
    | value v =>
      simp only at hq ⊢
      cases ht : f.truth v with
      | error cause =>
        rw [ht] at hq
        exact .error cause (hq nofun)
      | ok b =>
        rw [ht] at hq
        simp only [Expr.inCall] at hq ⊢
        split
        · exact .value _
        · rename_i hb
          rw [if_neg hb] at hq
          exact ih hq

/-- **Calls of a function agree if their arguments do.** -/
theorem Agree.call (hprops : f = .get → env.propertyOf = env'.propertyOf)
    (happly : f.apply env.surroundings = f.apply env'.surroundings)
    (h : List.Forall₂ (fun a a' => Agree quoted (eval env a) (eval env' a')) args args')
    (hq : (∀ v, eval env (.call f args) ≠ .ok v) → quoted (.call f args) (.call f args')) :
    Agree quoted (eval env (.call f args)) (eval env' (.call f args')) := by
  cases form f args with
  | gate hstop =>
    rw [eval_gate hstop] at hq ⊢
    rw [eval_gate hstop]
    exact .evalUntil h hq
  | branch c a b =>
    obtain _ | ⟨hc, _ | ⟨ha, _ | ⟨hb, _ | _⟩⟩⟩ := h
    rename_i c' a' b'
    rw [eval] at hq ⊢
    rw [eval]
    generalize eval env c = r, eval env' c' = r' at hc hq
    cases hc with
    | error cause hc => exact .error cause hc
    | value v =>
      simp only at hq ⊢
      cases ht : Func.truth .not v with
      | error cause =>
        rw [ht] at hq
        exact .error cause (hq nofun)
      | ok yes => cases yes <;> assumption
  | read a =>
    obtain _ | ⟨ha, _ | _⟩ := h
    rename_i a'
    rw [eval, eval, hprops rfl]
    generalize eval env a = r, eval env' a' = r' at ha
    cases ha with
    | error cause hc => exact .error cause hc
    | value v => exact .value _
  | strict hstrict =>
    rw [eval_strict hstrict] at hq ⊢
    rw [eval_strict (h.length_eq ▸ hstrict), ← happly]
    have hall := Agree.evalAll h
    generalize Expr.evalAll env args = r, Expr.evalAll env' args' = r' at hall hq
    cases hall with
    | error cause hc => exact .error cause hc
    | value vs =>
      refine .inCall fun hfails => hq fun v hv => ?_
      simp only at hv
      cases hr : f.apply env.surroundings vs with
      | ok w => exact hfails w hr
      | error cause =>
        rw [hr] at hv
        cases hv

end Remedy.Expr
