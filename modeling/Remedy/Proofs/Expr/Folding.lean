import Remedy.Proofs.Expr.Agreement
/-!
# Proofs.Expr.Folding — folding keeps the meaning of expressions

Folding evaluates calls of constants beforehand, without variables and properties, and leaves those that have no value
where they are.  What it computes does not hang on where and when it is computed (`eval_of_isLiteral`), so a folded
expression has the value that the expression has, or fails for the same cause (`eval_fold`): also where `and`, `or` and
`iif` do not come to evaluate a part that fails, where properties are read, and where a part has no value.  What the
error then quotes is the folded form of what the expression's own error quotes.  What has been folded stays as it is
(`fold_fold`), and no part is folded to a document (`noJson_eval`).
-/
namespace Remedy.Expr

variable {quoted : Expr → Expr → Prop} {env env' : Env} {f : Func} {args : List Expr}

mutual

def functions : Expr → List Func
  | .literal _ => []
  | .var _ => []
  | .call f args => f :: functionsOf args

def functionsOf : List Expr → List Func
  | [] => []
  | e :: rest => functions e ++ functionsOf rest

end

/-- **An expression asks neither for the time nor for a fresh identifier.** -/
def Timeless (e : Expr) : Prop := Func.now ∉ e.functions ∧ Func.guid ∉ e.functions

instance (e : Expr) : Decidable e.Timeless := inferInstanceAs (Decidable (_ ∧ _))

theorem functionsOf_eq_flatMap : ∀ args : List Expr, functionsOf args = args.flatMap functions
  | [] => rfl
  | e :: rest => by rw [functionsOf, functionsOf_eq_flatMap rest, List.flatMap_cons]

theorem Timeless.call (h : (Expr.call f args).Timeless) : (f ≠ .now ∧ f ≠ .guid) ∧ ∀ a ∈ args, a.Timeless := by
  unfold Timeless functions at h
  rw [functionsOf_eq_flatMap] at h
  simp only [List.mem_cons, List.mem_flatMap, not_or, not_exists, not_and] at h
  exact ⟨⟨Ne.symm h.1.1, Ne.symm h.2.1⟩, fun a ha => ⟨h.1.2 a ha, h.2.2 a ha⟩⟩

theorem foldAll_eq_map : ∀ args : List Expr, foldAll args = args.map fold
  | [] => rfl
  | e :: rest => by rw [foldAll, foldAll_eq_map rest, List.map_cons]

/-! ## Where and when an expression is evaluated -/

theorem apply_congr (hnow : f ≠ .now) (hguid : f ≠ .guid) (w w' : Func.Surroundings) : f.apply w = f.apply w' := by
  funext vs
  cases f with
  | now => exact absurd rfl hnow
  | guid => exact absurd rfl hguid
  | _ => rcases vs with _ | ⟨_, _ | ⟨_, _ | ⟨_, _ | _⟩⟩⟩ <;> rfl

theorem eval_surroundings {e : Expr} (h : e.Timeless) (env : Env) (w : Func.Surroundings) :
    eval { env with surroundings := w } e = eval env e := by
  refine Agree.eq ?_
  induction e using Expr.induction with
  | literal v => exact .value v
  | var name => exact .value _
  | call f args ih =>
    obtain ⟨⟨hnow, hguid⟩, hargs⟩ := h.call
    refine .call (fun _ => rfl) (apply_congr hnow hguid _ _) ?_ fun _ => rfl
    exact List.forall₂_same.2 fun a ha => ih a ha (hargs a ha)

/-- **A call of constants that can be folded** has the same value, or no value for the same cause, wherever it is
evaluated. -/
theorem eval_of_isLiteral (hf : f.isFoldable = true) (hargs : args.all isLiteral = true) (env env' : Env) :
    eval env (.call f args) = eval env' (.call f args) := by
  refine Agree.eq (.call ?_ ?_ (List.forall₂_same.2 fun a ha => ?_) fun _ => rfl)
  · rintro rfl
    cases hf
  · refine apply_congr ?_ ?_ _ _ <;> rintro rfl <;> cases hf
  · have hliteral := List.all_eq_true.1 hargs a ha
    cases a with
    | literal v => exact .value v
    | var name => cases hliteral
    | call f args => cases hliteral

/-- **Folding one call** does not change what comes of it. -/
theorem eval_foldCall (env : Env) (f : Func) (args : List Expr) :
    eval env (foldCall f args) = eval env (.call f args) := by
  unfold foldCall
  split
  · rename_i hfold
    obtain ⟨hf, hargs⟩ := Bool.and_eq_true_iff.1 hfold
    split
    · rename_i v hv
      rw [eval_of_isLiteral hf hargs env Env.empty, hv, eval]
    · rfl
  · rfl

/-! ## Folding everything -/

/-- An expression and its folded form agree, if calls without a value may be quoted for those with folded arguments. -/
theorem agree_fold (hq : ∀ f args, (∀ v, eval env (.call f args) ≠ .ok v) →
    quoted (.call f args) (.call f (args.map fold))) (e : Expr) : Agree quoted (eval env e) (eval env e.fold) := by
  induction e using Expr.induction with
  | literal v => exact .value v
  | var name => exact .value _
  | call f args ih =>
    rw [fold, foldAll_eq_map, eval_foldCall]
    exact .call (fun _ => rfl) rfl (List.forall₂_map_right_iff.2 (List.forall₂_same.2 ih)) (hq f args)

/-- **A call without a value stays where it is**, with its arguments folded. -/
theorem fold_of_fails (hfails : ∀ v, eval env (.call f args) ≠ .ok v) :
    (Expr.call f args).fold = .call f (args.map fold) := by
  rw [fold, foldAll_eq_map, foldCall]
  split
  · rename_i hfold
    obtain ⟨hf, hargs⟩ := Bool.and_eq_true_iff.1 hfold
    split
    · rename_i v hv
      have hagree : Agree (fun _ _ => True) (eval env (.call f args)) (eval env (Expr.call f args).fold) :=
        agree_fold (fun _ _ _ => trivial) _
      rw [fold, foldAll_eq_map, eval_foldCall] at hagree
      exact absurd ((hagree.ok_iff v).2 ((eval_of_isLiteral hf hargs env Env.empty).trans hv)) (hfails v)
    · rfl
  · rfl

/-- **Folding keeps the meaning of every expression** that asks neither for the time nor for a fresh identifier: in all
surroundings the folded expression has the same value, or fails for the same cause.  What is quoted then is the folded
form of the call that the expression itself quotes. -/
theorem eval_fold (e : Expr) (h : e.Timeless) (env : Env) (w : Func.Surroundings) :
    Agree (fun c c' => c' = c.fold) (e.eval env) (e.fold.eval { env with surroundings := w }) := by
  rw [← eval_surroundings h env w]
  exact agree_fold (fun f args hfails => (fold_of_fails hfails).symm) e

/-! The name of a property is computed beforehand; the branch that is not taken has no value, and when it is taken the
error quotes what has been computed of it. -/

def guarded : Expr :=
  .call .iif [.var "Known", .call .add [.literal (.string "on "), .call .get [.call .concat [.literal (.string "No"),
    .literal (.string "de")]]], .call .div [.literal (.int 1), .call .sub [.literal (.int 1), .literal (.int 1)]]]

/-- The surroundings in which `?Known` is true or not. -/
def reporting (known : Bool) : Env :=
  ⟨fun _ => some (.bool known), fun name => if name = "Node" then some (.string "N1") else none, Env.still⟩

theorem eval_fold_guarded : guarded.Timeless ∧ guarded.eval (reporting true) = .ok (.string "on N1") ∧
    guarded.fold.eval (reporting true) = .ok (.string "on N1") ∧
      (∃ c, guarded.eval (reporting false) = .error ⟨c, .divisionByZero⟩ ∧ c.display = "(1 / (1 - 1))") ∧
        ∃ c, guarded.fold.eval (reporting false) = .error ⟨c, .divisionByZero⟩ ∧ c.display = "(1 / 0)" := by
  have htimeless : guarded.Timeless := by decide
  have htrue : guarded.eval (reporting true) = .ok (.string "on N1") := rfl
  have hfalse : guarded.eval (reporting false) = .error ⟨_, .divisionByZero⟩ := rfl
  refine ⟨htimeless, htrue, ((eval_fold guarded htimeless _ _).ok_iff _).1 htrue, ⟨_, hfalse, by decide⟩, ?_⟩
  have hagree := eval_fold guarded htimeless (reporting false) Env.still
  rw [hfalse] at hagree
  generalize hr : guarded.fold.eval { reporting false with surroundings := Env.still } = r at hagree
  cases hagree with
  | error _ hc =>
    subst hc
    exact ⟨_, hr, by decide⟩

/-! ## Folding twice -/

theorem foldCall_cases (f : Func) (args : List Expr) :
    (∃ v, foldCall f args = .literal v) ∨ foldCall f args = .call f args := by
  unfold foldCall
  split
  · split
    · exact .inl ⟨_, rfl⟩
    · exact .inr rfl
  · exact .inr rfl

/-- **What has been folded stays as it is.** -/
theorem fold_fold (e : Expr) : e.fold.fold = e.fold := by
  induction e using Expr.induction with
  | literal v => rfl
  | var name => rfl
  | call f args ih =>
    have hargs : (args.map Expr.fold).map Expr.fold = args.map Expr.fold := by
      rw [List.map_map]
      exact List.map_congr_left ih
    rw [Expr.fold, foldAll_eq_map]
    rcases foldCall_cases f (args.map Expr.fold) with ⟨v, hv⟩ | hcall
    · rw [hv]
      rfl
    · rw [hcall, Expr.fold, foldAll_eq_map, hargs, hcall]

theorem fold_eq_call {g : Func} {args' : List Expr} (h : (Expr.call f args).fold = .call g args') :
    f = g ∧ args.map Expr.fold = args' := by
  rw [Expr.fold, foldAll_eq_map] at h
  rcases foldCall_cases f (args.map Expr.fold) with ⟨v, hv⟩ | hcall
  · rw [hv] at h
    cases h
  · rw [hcall] at h
    cases h
    exact ⟨rfl, rfl⟩

/-! ## Documents -/

def NoJson {ε : Type} (r : Except ε Value) : Prop := ∀ v, r = .ok v → v.isJson = false

theorem NoJson.error {ε : Type} {cause : ε} : NoJson (.error cause) := fun _ h => nomatch h

theorem NoJson.ok {ε : Type} {v : Value} (h : v.isJson = false) : NoJson (.ok v : Except ε Value) := fun _ hw => by
  cases hw
  exact h

theorem NoJson.map {ε α : Type} {r : Except ε α} {g : α → Value} (h : ∀ x, (g x).isJson = false) :
    NoJson (r.map g) := by
  cases r with
  | error cause => exact .error
  | ok x => exact .ok (h x)

theorem NoJson.bind {ε α : Type} {r : Except ε α} {g : α → Except ε Value} (h : ∀ x, NoJson (g x)) :
    NoJson (r >>= g) := by
  cases r with
  | error cause => exact .error
  | ok x => exact h x

section Apply

open Func (combine sum difference quotient remainder ordered conjunction disjunction matching)

variable {w : Func.Surroundings} {ints : Int → Int → Int} {floats : Float → Float → Float} {vs : List Value}

theorem noJson_combine : NoJson (combine f ints floats vs) := by
  unfold combine
  split
  · exact .error
  · split
    · exact .ok rfl
    · exact .map fun _ => rfl
    · split <;> exact .ok rfl

theorem noJson_sum : NoJson (sum vs) := by
  unfold sum
  split
  · exact .ok rfl
  · split
    · exact .ok rfl
    · exact noJson_combine

theorem noJson_difference : NoJson (difference vs) := by
  unfold difference
  split
  · exact .map fun _ => rfl
  · exact .ok rfl
  · exact .error
  · exact .ok rfl
  · exact noJson_combine

theorem noJson_quotient {a b : Value} : NoJson (quotient a b) := by
  unfold quotient
  simp only
  repeat' split
  all_goals first | exact .error | exact .ok rfl | exact .map fun _ => rfl

theorem noJson_remainder {a b : Value} : NoJson (remainder a b) := by
  unfold remainder
  split
  · split
    · exact .error
    · exact .bind fun _ => .ok rfl
  · exact .error

theorem noJson_ordered {test : Ordering → Bool} {a b : Value} : NoJson (ordered f test a b) := by
  unfold ordered
  split
  · exact .ok rfl
  · exact .error

theorem noJson_conjunction : ∀ vs, NoJson (conjunction vs)
  | [] => .ok rfl
  | v :: rest => by
    refine .bind fun yes => ?_
    cases yes with
    | true => exact noJson_conjunction rest
    | false => exact .ok rfl

theorem noJson_disjunction : ∀ vs, NoJson (disjunction vs)
  | [] => .ok rfl
  | v :: rest => by
    refine .bind fun yes => ?_
    cases yes with
    | true => exact .ok rfl
    | false => exact noJson_disjunction rest

theorem noJson_matching {a b : Value} : NoJson (matching a b) := by
  unfold matching
  split
  · exact .ok rfl
  · exact .error

/-- **No function computes a document** from values that are none. -/
theorem noJson_apply (hvs : ∀ u ∈ vs, u.isJson = false) : NoJson (f.apply w vs) := by
  unfold Func.apply
  split
  · exact noJson_sum
  · exact noJson_difference
  · exact noJson_difference
  · exact noJson_combine
  · exact noJson_quotient
  · exact noJson_remainder
  · exact .ok rfl
  · exact .ok rfl
  · exact noJson_ordered
  · exact noJson_ordered
  · exact noJson_ordered
  · exact noJson_ordered
  · exact noJson_conjunction _
  · exact noJson_disjunction _
  · exact .map fun _ => rfl
  · exact noJson_matching
  · exact .error
  · exact .ok rfl
  · exact .ok rfl
  · exact .map fun _ => rfl
  · exact .map fun _ => rfl
  · exact .map fun _ => rfl
  · exact .bind fun _ => .bind fun _ => .ok rfl
  · exact .bind fun _ => .bind fun _ => .ok rfl
  · exact .bind fun _ => .bind fun _ => .ok rfl
  · rename_i c a b
    refine .map fun yes => ?_
    cases yes with
    | true => exact hvs a (by simp)
    | false => exact hvs b (by simp)
  · exact .ok rfl
  · exact .ok rfl
  · exact .error

end Apply

theorem noJson_evalUntil {env : Env} {c : Expr} {stop : Bool} : ∀ args, NoJson (evalUntil env c f stop args)
  | [] => by
    rw [evalUntil]
    exact .ok rfl
  | a :: rest => by
    rw [evalUntil]
    split
    · exact .error
    · split
      · exact .error
      · split
        · exact .ok rfl
        · exact noJson_evalUntil rest

theorem noJson_evalAll {env : Env} : ∀ {args : List Expr} {vs : List Value}, (∀ a ∈ args, NoJson (eval env a)) →
    evalAll env args = .ok vs → ∀ v ∈ vs, v.isJson = false
  | [], vs, _, h => by
    rw [evalAll] at h
    cases h
    exact List.forall_mem_nil _
  | a :: rest, vs, hargs, h => by
    rw [evalAll] at h
    split at h
    · cases h
    · rename_i v hv
      split at h
      · cases h
      · rename_i vs' hvs
        cases h
        have hrest := noJson_evalAll (fun b hb => hargs b (List.mem_cons_of_mem a hb)) hvs
        exact List.forall_mem_cons.2 ⟨hargs a List.mem_cons_self v hv, hrest⟩

/-- **A call that can be folded comes to no document** if its arguments do not. -/
theorem noJson_eval {env : Env} (hf : f.isFoldable = true) (hargs : ∀ a ∈ args, NoJson (eval env a)) :
    NoJson (eval env (.call f args)) := by
  cases form f args with
  | gate h =>
    rw [eval_gate h]
    exact noJson_evalUntil _
  | branch c a b =>
    rw [eval]
    split
    · exact .error
    · split
      · exact .error
      · exact hargs a (by simp)
      · exact hargs b (by simp)
  | read a => cases hf
  | strict h =>
    rw [eval_strict h]
    split
    · exact .error
    · rename_i vs hvs
      intro v hv
      unfold inCall at hv
      split at hv
      · rename_i u hu
        cases hv
        exact noJson_apply (noJson_evalAll hargs hvs) _ hu
      · cases hv

end Remedy.Expr
