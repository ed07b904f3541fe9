import Remedy.Proofs.Expr.Printing
/-!
# Proofs.Expr.Positions — no argument is read past the last one

Functions have a table of how many arguments they take, and they read their arguments by position, each in its own way:
the operators the first two, `iif` the first and then one of two others, sums and products the first before the rest.
Here evaluation is written out with these readings (`Func.applyAt`, `evalAt`, `foldAt`): it gives nothing at all once a
position is past the last argument.  When all calls in an expression have as many arguments as the table says
(`Counted`), that never happens, and what comes of it is what evaluation and folding give (`evalAt_eq`, `foldAt_eq`).

Calls are made in three places: for an operator between two operands, for a sign before one, and for a name with
arguments in brackets.  What a text spells has been made there (`Spelled`), so it is counted (`Spelled.counted`), and
folding takes calls away or leaves them as they are (`Counted.fold`).
-/
namespace Remedy

namespace Func

variable {f : Func} {args : List Value} {w : Surroundings}

/-! ## Functions that read by position -/

def one (k : Value → Except FunctionError Value) (args : List Value) : Option (Except FunctionError Value) := do
  some (k (← args[0]?))

def two (k : Value → Value → Except FunctionError Value) (args : List Value) : Option (Except FunctionError Value) := do
  some (k (← args[0]?) (← args[1]?))

def combineAt (f : Func) (ints : Int → Int → Int) (floats : Float → Float → Float) (args : List Value) :
    Option (Except FunctionError Value) :=
  match args.find? (!·.isNumeric) with
  | some v => some (.error (.typeMismatch f (.expectedNumber v.kind)))
  | none => do
    let first ← args[0]?
    if args.all Value.isInt then
      some ((f.combineInts ints (first.asInt?.getD 0) (args.tail.map fun v => v.asInt?.getD 0)).map .int)
    else
      some (.ok (.float ((args.tail.map fun v => v.asFloat?.getD 0).foldl floats (first.asFloat?.getD 0))))

def sumAt (args : List Value) : Option (Except FunctionError Value) :=
  if args.any Value.isString then some (.ok (joined args))
  else if args.all Value.isTimespan then
    some (.ok (.timespan ((args.filterMap Value.asTimespan?).foldl Timespan.add Timespan.zero)))
  else combineAt .add (· + ·) (· + ·) args

def differenceAt : List Value → Option (Except FunctionError Value)
  | [.int n] => some ((fitting .sub (-n.toInt)).map .int)
  | [.float x] => some (.ok (.float (-x)))
  | [v] => some (.error (.typeMismatch .sub (.cannotNegate v.kind)))
  | [.timespan a, .timespan b] => some (.ok (.timespan (a.sub b)))
  | args => combineAt .sub (· - ·) (· - ·) args

/-- **The value of a function that reads its arguments by position**: none if there is no argument at a position that is
read. -/
def applyAt (w : Surroundings) (f : Func) (args : List Value) : Option (Except FunctionError Value) :=
  match f with
  | .add => sumAt args
  | .sub => differenceAt args
  | .mul => combineAt .mul (· * ·) (· * ·) args
  | .div => two quotient args
  | .mod => two remainder args
  | .eq => two (fun a b => .ok (.bool (a.looselyEquals b))) args
  | .ne => two (fun a b => .ok (.bool (!a.looselyEquals b))) args
  | .lt => two (ordered .lt Ordering.isLT) args
  | .le => two (ordered .le Ordering.isLE) args
  | .gt => two (ordered .gt Ordering.isGT) args
  | .ge => two (ordered .ge Ordering.isGE) args
  | .and => some (conjunction args)
  | .or => some (disjunction args)
  | .not => one (fun a => (truth .not a).map fun b => .bool (!b)) args
  | .like => two matching args
  | .get => some (.error .noProperties)
  | .concat => some (.ok (joined args))
  | .expression => some (.ok (joined args))
  | .lower => one (fun a => (textOf .lower a).map fun s => .string (Text.lower s)) args
  | .upper => one (fun a => (textOf .upper a).map fun s => .string (Text.upper s)) args
  | .len => one (fun a => (textOf .len a).map fun s => .int (Int64.ofNat s.length)) args
  | .contains => two (textTest .contains fun s t => Text.contains t s) args
  | .startsWith => two (textTest .startsWith fun s t => Text.startsWith t s) args
  | .endsWith => two (textTest .endsWith fun s t => Text.endsWith t s) args
  | .iif => do
    match truth .iif (← args[0]?) with
    | .error cause => some (.error cause)
    | .ok yes => some (.ok (← args[if yes then 1 else 2]?))
  | .now => some (.ok (.string w.now))
  | .guid => some (.ok (.string w.fresh))

/-! ## No reading goes past the last argument -/

theorem length_of_accepts {n k : Nat} (h : f.accepts n = true) (hleast : f.least = k) (hmost : f.most = some k) :
    n = k := by
  simp only [accepts, hleast, hmost, Option.all_some, Bool.and_eq_true, decide_eq_true_eq] at h
  omega

theorem ne_nil_of_accepts (h : f.accepts args.length = true) (hleast : f.least = 1) : args ≠ [] := by
  rintro rfl
  simp [accepts, hleast] at h

theorem isSome_asInt? (v : Value) : v.asInt?.isSome = v.isInt := by cases v <;> rfl

theorem isSome_asFloat? (v : Value) : v.asFloat?.isSome = v.isNumeric := by cases v <;> rfl

theorem isSome_asTimespan? (v : Value) : v.asTimespan?.isSome = v.isTimespan := by cases v <;> rfl

theorem filterMap_of_all {α β : Type} {g : α → Option β} (b : β) : ∀ {l : List α},
    l.all (fun a => (g a).isSome) = true → l.filterMap g = l.map fun a => (g a).getD b
  | [], _ => rfl
  | a :: l, h => by
    rw [List.all_cons, Bool.and_eq_true] at h
    obtain ⟨x, hx⟩ := Option.isSome_iff_exists.1 h.1
    rw [List.filterMap_cons_some hx, filterMap_of_all b h.2, List.map_cons, hx, Option.getD_some]

theorem mapM_eq {α β : Type} (g : α → Option β) : ∀ l : List α,
    l.mapM g = if l.all (fun a => (g a).isSome) then some (l.filterMap g) else none
  | [] => rfl
  | a :: l => by
    rw [List.mapM_cons, mapM_eq g l, List.all_cons]
    cases ha : g a with
    | none => rfl
    | some x =>
      rw [List.filterMap_cons_some ha]
      cases l.all fun a => (g a).isSome <;> rfl

theorem combineAt_eq (f : Func) (ints : Int → Int → Int) (floats : Float → Float → Float) (h : args ≠ []) :
    f.combineAt ints floats args = some (f.combine ints floats args) := by
  obtain ⟨a, rest, rfl⟩ := List.exists_cons_of_ne_nil h
  unfold combineAt combine
  cases hbad : (a :: rest).find? (!·.isNumeric) with
  | some v => rfl
  | none =>
    have hnumeric : (a :: rest).all (fun v => v.asFloat?.isSome) = true := by
      simpa [isSome_asFloat?, List.find?_eq_none] using hbad
    simp only [List.getElem?_cons_zero, Option.bind_eq_bind, Option.bind_some, List.tail_cons, mapM_eq, isSome_asInt?,
      filterMap_of_all 0 hnumeric, List.map_cons]
    cases hints : (a :: rest).all Value.isInt with
    | false => rfl
    | true =>
      have hwhole : (a :: rest).all (fun v => v.asInt?.isSome) = true := by simpa only [isSome_asInt?] using hints
      simp only [↓reduceIte, filterMap_of_all 0 hwhole, List.map_cons]

theorem sumAt_eq (h : args ≠ []) : sumAt args = some (sum args) := by
  unfold sumAt sum
  split
  · rfl
  · simp only [mapM_eq, isSome_asTimespan?]
    cases args.all Value.isTimespan with
    | true => rfl
    | false => exact combineAt_eq .add _ _ h

theorem differenceAt_eq (h : args ≠ []) : differenceAt args = some (difference args) := by
  fun_cases difference args with
  | case1 n => rfl
  | case2 x => rfl
  | case3 v hint hfloat => exact differenceAt.eq_3 v hint hfloat
  | case4 a b => rfl
  | case5 args hint hfloat hone htimespans =>
    rw [differenceAt.eq_5 args hint hfloat hone htimespans]
    exact combineAt_eq .sub _ _ h

/-- **A function with as many arguments as it takes** reads none that is not there. -/
theorem applyAt_eq (w : Surroundings) (h : f.accepts args.length = true) :
    f.applyAt w args = some (f.apply w args) := by
  cases f with
  | now | guid =>
    obtain rfl := List.length_eq_zero_iff.1 (length_of_accepts h rfl rfl)
    rfl
  | not | lower | upper | len | get =>
    obtain ⟨a, rfl⟩ := List.length_eq_one_iff.1 (length_of_accepts h rfl rfl)
    rfl
  | eq | ne | lt | le | gt | ge | div | mod | like | contains | startsWith | endsWith =>
    obtain ⟨a, b, rfl⟩ := List.length_eq_two.1 (length_of_accepts h rfl rfl)
    rfl
  | iif =>
    obtain ⟨c, a, b, rfl⟩ := List.length_eq_three.1 (length_of_accepts h rfl rfl)
    simp only [applyAt, apply, List.getElem?_cons_zero, Option.bind_eq_bind, Option.bind_some]
    cases truth .iif c with
    | error cause => rfl
    | ok yes => cases yes <;> rfl
  | and | or | concat | expression =>
    obtain ⟨a, rest, rfl⟩ := List.exists_cons_of_ne_nil (ne_nil_of_accepts h rfl)
    rfl
  | mul =>
    obtain ⟨a, rest, rfl⟩ := List.exists_cons_of_ne_nil (ne_nil_of_accepts h rfl)
    exact combineAt_eq .mul _ _ (List.cons_ne_nil a rest)
  | add =>
    obtain ⟨a, rest, rfl⟩ := List.exists_cons_of_ne_nil (ne_nil_of_accepts h rfl)
    exact sumAt_eq (List.cons_ne_nil a rest)
  | sub =>
    -- one argument or two, and `apply` takes either to the difference
    rcases args with _ | ⟨a, _ | ⟨b, _ | ⟨c, rest⟩⟩⟩
    · cases h
    · exact differenceAt_eq (List.cons_ne_nil a [])
    · exact differenceAt_eq (List.cons_ne_nil a [b])
    · simp [accepts, least, most] at h

end Func

namespace Expr

variable {env : Env} {e : Expr} {f : Func} {args : List Expr}

/-! ## Evaluation and folding by position -/

abbrev Outcome := Except EvalError Value

def collectAt : List (Option Outcome) → Option (Except EvalError (List Value))
  | [] => some (.ok [])
  | outcome :: rest => do
    match ← outcome with
    | .error e => some (.error e)
    | .ok v =>
      match ← collectAt rest with
      | .error e => some (.error e)
      | .ok vs => some (.ok (v :: vs))

/-- The outcomes of the arguments demanded from the left, up to the one that settles the call; the function is applied
to each alone. -/
def untilAt (env : Env) (call : Expr) (f : Func) (stop : Bool) : List (Option Outcome) → Option Outcome
  | [] => some (.ok (.bool (!stop)))
  | outcome :: rest => do
    match ← outcome with
    | .error e => some (.error e)
    | .ok v =>
      match inCall call (← f.applyAt env.surroundings [v]) with
      | .error e => some (.error e)
      | .ok b => if b.toBool? = some stop then some (.ok (.bool stop)) else untilAt env call f stop rest

/-- A call for which all arguments are demanded first. -/
def strictAt (env : Env) (f : Func) (args : List Expr) (outcomes : List (Option Outcome)) : Option Outcome := do
  match ← collectAt outcomes with
  | .error e => some (.error e)
  | .ok vs => some (inCall (.call f args) (← f.applyAt env.surroundings vs))

/-- A call whose arguments have these outcomes, demanded by their positions. -/
def callAt (env : Env) (f : Func) (args : List Expr) (outcomes : List (Option Outcome)) : Option Outcome :=
  match f with
  | .and => untilAt env (.call .and args) .and false outcomes
  | .or => untilAt env (.call .or args) .or true outcomes
  | .iif => do
    match ← (← outcomes[0]?) with
    | .error e => some (.error e)
    | .ok v =>
      match inCall (.call .iif args) (← Func.not.applyAt env.surroundings [v]) with
      | .error e => some (.error e)
      | .ok pick => (← outcomes[if pick.toBool? = some false then 1 else 2]?)
  | .get => do
    match ← (← outcomes[0]?) with
    | .error e => some (.error e)
    | .ok v => some (.ok ((env.propertyOf v.toText).getD .null))
  | f => strictAt env f args outcomes

mutual

/-- **The value of an expression, its arguments read by position.** -/
def evalAt (env : Env) : Expr → Option Outcome
  | .literal v => some (.ok v)
  | .var name => some (.ok ((env.variableOf name).getD .null))
  | .call f args => callAt env f args (evalEachAt env args)

def evalEachAt (env : Env) : List Expr → List (Option Outcome)
  | [] => []
  | e :: rest => evalAt env e :: evalEachAt env rest

end

def foldCallAt (f : Func) (args : List Expr) : Option Expr :=
  if f.isFoldable && args.all isLiteral then do
    match ← evalAt Env.empty (.call f args) with
    | .ok v => some (.literal v)
    | .error _ => some (.call f args)
  else some (.call f args)

mutual

/-- **The expression with its constant parts computed**, the arguments read by position. -/
def foldAt : Expr → Option Expr
  | .literal v => some (.literal v)
  | .var name => some (.var name)
  | .call f args => do foldCallAt f (← foldEachAt args)

def foldEachAt : List Expr → Option (List Expr)
  | [] => some []
  | e :: rest => do some ((← foldAt e) :: (← foldEachAt rest))

end

/-! ## Expressions whose calls have as many arguments as their functions take -/

inductive Occurs (a : Expr) : Expr → Prop
  | self : Occurs a a
  | arg {f : Func} {args : List Expr} {b : Expr} (hb : b ∈ args) (h : Occurs a b) : Occurs a (.call f args)

/-- **Every call in an expression has as many arguments as its function takes.** -/
def Counted (e : Expr) : Prop := ∀ f args, Occurs (.call f args) e → f.accepts args.length = true

theorem counted_call : (Expr.call f args).Counted ↔ f.accepts args.length = true ∧ ∀ a ∈ args, a.Counted := by
  constructor
  · intro h
    exact ⟨h f args .self, fun a ha g as hg => h g as (.arg ha hg)⟩
  · rintro ⟨haccepts, hargs⟩ g as hg
    cases hg with
    | self => exact haccepts
    | arg hb h => exact hargs _ hb g as h

theorem Spelled.counted (h : Spelled e) : e.Counted := by
  induction h with
  | literal => rintro g as ⟨⟩
  | var => rintro g as ⟨⟩
  | call haccepts _ ih => exact counted_call.2 ⟨haccepts, ih⟩

/-- **Folding takes calls away, or leaves them with as many arguments.** -/
theorem Counted.fold (h : e.Counted) : e.fold.Counted := by
  induction e using Expr.induction with
  | literal v => exact h
  | var name => exact h
  | call f args ih =>
    obtain ⟨haccepts, hargs⟩ := counted_call.1 h
    rw [Expr.fold, foldAll_eq_map]
    rcases foldCall_cases f (args.map Expr.fold) with ⟨v, hv⟩ | hcall
    · rw [hv]
      rintro g as ⟨⟩
    · rw [hcall, counted_call, List.length_map]
      exact ⟨haccepts, List.forall_mem_map.2 fun a ha => ih a ha (hargs a ha)⟩

/-! ## Nothing past the last argument is read -/

theorem collectAt_eq (env : Env) : ∀ args : List Expr,
    collectAt (args.map fun a => some (eval env a)) = some (evalAll env args)
  | [] => by rw [evalAll]; rfl
  | a :: rest => by
    rw [List.map_cons, collectAt, collectAt_eq env rest, evalAll]
    cases eval env a with
    | error e => rfl
    | ok v => cases evalAll env rest <;> rfl

theorem applyAt_gate {w : Func.Surroundings} {stop : Bool} (h : stop? f = some stop) (v : Value) :
    f.applyAt w [v] = some ((f.truth v).map .bool) := by
  cases f with
  | and =>
    rw [Func.applyAt, Func.conjunction]
    cases Func.truth .and v with
    | error cause => rfl
    | ok b => cases b <;> rfl
  | or =>
    rw [Func.applyAt, Func.disjunction]
    cases Func.truth .or v with
    | error cause => rfl
    | ok b => cases b <;> rfl
  | _ => cases h

theorem untilAt_eq {call : Expr} {stop : Bool} (h : stop? f = some stop) : ∀ args : List Expr,
    untilAt env call f stop (args.map fun a => some (eval env a)) = some (evalUntil env call f stop args)
  | [] => by rw [evalUntil]; rfl
  | a :: rest => by
    rw [List.map_cons, untilAt, untilAt_eq h rest, evalUntil]
    cases eval env a with
    | error e => rfl
    | ok v =>
      simp only [Option.bind_eq_bind, Option.bind_some, applyAt_gate h]
      cases f.truth v with
      | error cause => rfl
      | ok b => simp only [Except.map, inCall, Value.toBool?, Option.some.injEq, apply_ite some]

theorem length_of_evalAll {vs : List Value} : ∀ {args : List Expr}, evalAll env args = .ok vs → vs.length = args.length
  | [], h => by
    rw [evalAll] at h
    cases h
    rfl
  | a :: rest, h => by
    rw [evalAll] at h
    split at h
    · cases h
    · split at h
      · cases h
      · rename_i ws hrest
        cases h
        rw [List.length_cons, List.length_cons, length_of_evalAll hrest]

theorem callAt_of_isStrict (hstrict : isStrict f args.length = true) (h : f.accepts args.length = true)
    (outcomes : List (Option Outcome)) : callAt env f args outcomes = strictAt env f args outcomes := by
  cases f with
  | and | or => cases hstrict
  | iif =>
    rw [Func.length_of_accepts h rfl rfl] at hstrict
    cases hstrict
  | get =>
    rw [Func.length_of_accepts h rfl rfl] at hstrict
    cases hstrict
  | _ => rfl

theorem callAt_eq (h : f.accepts args.length = true) :
    callAt env f args (args.map fun a => some (eval env a)) = some (eval env (.call f args)) := by
  cases form f args with
  | gate hstop =>
    rw [eval_gate hstop]
    cases f with
    | and | or =>
      cases hstop
      exact untilAt_eq rfl args
    | _ => cases hstop
  | branch c a b =>
    rw [eval, callAt]
    simp only [List.map_cons, List.getElem?_cons_zero, Option.bind_eq_bind, Option.bind_some, Func.applyAt, Func.one]
    cases eval env c with
    | error e => rfl
    | ok v =>
      simp only
      cases Func.truth .not v with
      | error cause => rfl
      | ok yes => cases yes <;> rfl
  | read a =>
    rw [eval, callAt]
    simp only [List.map_cons, List.getElem?_cons_zero, Option.bind_eq_bind, Option.bind_some]
    cases eval env a <;> rfl
  | strict hstrict =>
    rw [callAt_of_isStrict hstrict h, strictAt, collectAt_eq, eval_strict hstrict]
    cases hall : evalAll env args with
    | error e => rfl
    | ok vs =>
      rw [← length_of_evalAll hall] at h
      simp only [Option.bind_eq_bind, Option.bind_some, Func.applyAt_eq _ h]

theorem evalEachAt_eq_map (env : Env) : ∀ args : List Expr, evalEachAt env args = args.map (evalAt env)
  | [] => rfl
  | a :: rest => by rw [evalEachAt, evalEachAt_eq_map env rest, List.map_cons]

/-- **Evaluation reads no argument that is not there**: read by position, an expression whose calls have as many
arguments as their functions take has the value that it has, in all surroundings. -/
theorem evalAt_eq (env : Env) (h : e.Counted) : evalAt env e = some (eval env e) := by
  induction e using Expr.induction with
  | literal v => rfl
  | var name => rfl
  | call f args ih =>
    obtain ⟨haccepts, hargs⟩ := counted_call.1 h
    rw [evalAt, evalEachAt_eq_map, List.map_congr_left fun a ha => ih a ha (hargs a ha)]
    exact callAt_eq haccepts

/-! The branch for a false condition is the third argument, which is read only if it is taken. -/

example : evalAt env (.call .iif [.literal (.bool true), .var "X"]) = some (eval env (.var "X")) ∧
    evalAt env (.call .iif [.literal (.bool false), .var "X"]) = none := ⟨rfl, rfl⟩

theorem foldCallAt_eq (h : (Expr.call f args).Counted) : foldCallAt f args = some (foldCall f args) := by
  unfold foldCallAt foldCall
  rw [evalAt_eq Env.empty h]
  split
  · cases eval Env.empty (.call f args) <;> rfl
  · rfl

theorem foldEachAt_eq : ∀ {args : List Expr}, (∀ a ∈ args, foldAt a = some a.fold) →
    foldEachAt args = some (args.map Expr.fold)
  | [], _ => rfl
  | a :: rest, h => by
    rw [foldEachAt, h a List.mem_cons_self, foldEachAt_eq fun b hb => h b (List.mem_cons_of_mem a hb)]
    rfl

/-- **Folding reads no argument that is not there.** -/
theorem foldAt_eq (h : e.Counted) : foldAt e = some e.fold := by
  induction e using Expr.induction with
  | literal v => rfl
  | var name => rfl
  | call f args ih =>
    obtain ⟨haccepts, hargs⟩ := counted_call.1 h
    have hfolded : (Expr.call f (args.map Expr.fold)).Counted := by
      rw [counted_call, List.length_map]
      exact ⟨haccepts, List.forall_mem_map.2 fun a ha => (hargs a ha).fold⟩
    rw [foldAt, foldEachAt_eq fun a ha => ih a ha (hargs a ha), Expr.fold, foldAll_eq_map]
    exact foldCallAt_eq hfolded

/-- **What is built never reads an argument that is not there.**  What a text spells has in every call as many arguments
as the function takes, and so has what is left of it when it is folded; so each of the arguments that evaluation, in any
surroundings, and folding read by their positions is there. -/
theorem counted_of_build {text : String} (h : build text = .ok e) :
    ∃ whole, ofChars (expand (Text.trim text.toList)) = .ok whole ∧ whole.Counted ∧ foldAt whole = some e ∧ e.Counted ∧
      ∀ env, evalAt env whole = some (whole.eval env) ∧ evalAt env e = some (e.eval env) := by
  unfold build at h
  simp only at h
  split at h
  · cases h
  · split at h
    · rename_i whole hread
      cases h
      have hcounted : whole.Counted := ((readSpelled _).tree _ _ hread).counted
      exact ⟨whole, hread, hcounted, foldAt_eq hcounted, hcounted.fold, fun env =>
        ⟨evalAt_eq env hcounted, evalAt_eq env hcounted.fold⟩⟩
    · cases h

theorem counted_of_build_gates : ∃ e, build "iif(!?Up, mul(2 * 3, ?N), concat(, get(Name), now()))" = .ok e ∧
    e.display = "iif(!?Up, (6 * ?N), concat(null, get(\"Name\"), now()))" ∧ e.Counted ∧
      ∀ env, evalAt env e = some (e.eval env) := by
  have hok : (build "iif(!?Up, mul(2 * 3, ?N), concat(, get(Name), now()))").isOk = true := by decide +kernel
  have hdisplay : (build "iif(!?Up, mul(2 * 3, ?N), concat(, get(Name), now()))").toOption.map display =
      some "iif(!?Up, (6 * ?N), concat(null, get(\"Name\"), now()))" := by decide +kernel
  have hbuild := eq_ok_of_isOk hok default
  obtain ⟨_, _, _, _, hcounted, heval⟩ := counted_of_build hbuild
  rw [hbuild] at hdisplay
  exact ⟨_, hbuild, Option.some.inj hdisplay, hcounted, fun env => (heval env).2⟩

end Expr
end Remedy
