import Remedy.Expr.Build
import Remedy.Proofs.Expr.Folding
/-!
# Proofs.Expr.Arithmetic — whole numbers are computed exactly or not at all

An expression of whole numbers is built from whole constants and variables with whole values by sums and products,
differences, negatives and remainders (`Whole`).  It has an exact value among all integers, and so has each of its calls
(`exact`); a call is at fault if a result on the way to its value does not fit 64 bits, or if it divides by zero or the
least number by -1 (`fault?`).  If no call is at fault, the expression has its exact value; otherwise it fails at the
first call at fault, in the order of evaluation, for the reason that this call has.  So it is too when its constant
parts have been computed beforehand (`arithmetic_exact`).
-/
namespace Remedy

def fits (n : Int) : Bool := decide (-0x8000000000000000 ≤ n ∧ n < 0x8000000000000000)

theorem fits_toInt (n : Int64) : fits n.toInt = true :=
  decide_eq_true ⟨n.le_toInt, n.toInt_lt⟩

theorem toInt_ofInt_of_fits {n : Int} (h : fits n = true) : (Int64.ofInt n).toInt = n := by
  obtain ⟨hle, hlt⟩ := of_decide_eq_true h
  exact Int64.toInt_ofInt_of_le hle hlt

namespace Func

def IsWhole (f : Func) : Prop := f = .add ∨ f = .sub ∨ f = .mul ∨ f = .mod

/-- **The exact value of a function** among all integers. -/
def exact : Func → List Int → Int
  | .add, x :: xs => xs.foldl (· + ·) x
  | .mul, x :: xs => xs.foldl (· * ·) x
  | .sub, [x] => -x
  | .sub, [x, y] => x - y
  | .mod, [x, y] => x.tmod y
  | _, _ => 0

/-- **Why a function has no value at whole numbers**: a result does not fit, from the left, or there is no quotient. -/
def fault? : Func → List Int → Option FunctionError
  | .add, x :: xs => if (xs.scanl (· + ·) x).all fits then none else some (.overflow .add)
  | .mul, x :: xs => if (xs.scanl (· * ·) x).all fits then none else some (.overflow .mul)
  | .sub, [x] => if fits (-x) then none else some (.overflow .sub)
  | .sub, [x, y] => if fits (x - y) then none else some (.overflow .sub)
  | .mod, [x, y] =>
    if y = 0 then some .divisionByZero
    else if x = -0x8000000000000000 ∧ y = -1 then some (.overflow .mod)
    else none
  | _, _ => none

variable {f : Func} {op : Int → Int → Int}

theorem fitting_eq (f : Func) (n : Int) :
    f.fitting n = if fits n then .ok (Int64.ofInt n) else .error (.overflow f) := by
  unfold fitting fits
  simp only [Bool.and_eq_true, decide_eq_true_eq]

/-- **Combining from the left** gives the exact result if every result on the way fits. -/
theorem combineInts_eq (f : Func) (op : Int → Int → Int) : ∀ (rest : List Int64) (acc : Int64),
    f.combineInts op acc rest =
      if ((rest.map Int64.toInt).scanl op acc.toInt).all fits then
        .ok (Int64.ofInt ((rest.map Int64.toInt).foldl op acc.toInt))
      else .error (.overflow f)
  | [], acc => by
    have hall : (([] : List Int).scanl op acc.toInt).all fits = true := by
      rw [List.scanl_nil, List.all_cons, fits_toInt]
      rfl
    rw [List.map_nil, if_pos hall, List.foldl_nil, Int64.ofInt_toInt]
    rfl
  | n :: rest, acc => by
    show (f.fitting (op acc.toInt n.toInt) >>= fun m => f.combineInts op m rest) = _
    rw [fitting_eq, List.map_cons, List.scanl_cons, List.foldl_cons, List.all_cons, fits_toInt, Bool.true_and]
    by_cases hfits : fits (op acc.toInt n.toInt) = true
    · rw [if_pos hfits]
      show f.combineInts op (Int64.ofInt (op acc.toInt n.toInt)) rest = _
      rw [combineInts_eq f op rest, toInt_ofInt_of_fits hfits]
    · have hnot : ((rest.map Int64.toInt).scanl op (op acc.toInt n.toInt)).all fits = false := by
        cases rest.map Int64.toInt <;> simp [Bool.eq_false_iff.2 hfits]
      rw [if_neg hfits, hnot]
      rfl

theorem fits_foldl : ∀ (xs : List Int) (x : Int), (xs.scanl op x).all fits = true → fits (xs.foldl op x) = true
  | [], x, h => by
    rw [List.scanl_nil, List.all_cons, Bool.and_eq_true] at h
    exact h.1
  | y :: xs, x, h => by
    rw [List.scanl_cons, List.all_cons, Bool.and_eq_true] at h
    exact fits_foldl xs (op x y) h.2

/-- **The quotient of two whole numbers fits** unless it is that of the least one by -1. -/
theorem fits_tdiv {x y : Int} (hx : fits x = true) (hy : y ≠ 0) :
    fits (x.tdiv y) = true ↔ ¬ (x = -0x8000000000000000 ∧ y = -1) := by
  unfold fits at *
  rw [decide_eq_true_eq] at *
  by_cases hone : y = 1
  · subst hone
    rw [Int.tdiv_one]
    omega
  by_cases hminus : y = -1
  · subst hminus
    rw [Int.tdiv_neg, Int.tdiv_one]
    omega
  have hquot : (x.tdiv y).natAbs = x.natAbs / y.natAbs := Int.natAbs_tdiv x y
  have hle : x.natAbs / y.natAbs ≤ x.natAbs / 2 := Nat.div_le_div_left (by omega) (by decide)
  omega

theorem fits_tmod {x : Int} (hx : fits x = true) (y : Int) : fits (x.tmod y) = true := by
  unfold fits at *
  rw [decide_eq_true_eq] at *
  have hrem : (x.tmod y).natAbs = x.natAbs % y.natAbs := Int.natAbs_tmod x y
  have hle : x.natAbs % y.natAbs ≤ x.natAbs := Nat.mod_le _ _
  rcases Int.le_total 0 x with h | h
  · have hpos := Int.tmod_nonneg y h
    omega
  · have hneg := Int.tmod_nonneg y (Int.neg_nonneg_of_nonpos h)
    rw [Int.neg_tmod] at hneg
    omega

def wholes (ns : List Int64) : List Value := ns.map .int

theorem mapM_asInt? : ∀ ns : List Int64, (wholes ns).mapM Value.asInt? = some ns
  | [] => rfl
  | n :: rest => by
    show ((Value.int n :: wholes rest).mapM Value.asInt?) = _
    rw [List.mapM_cons, mapM_asInt? rest]
    rfl

theorem combine_wholes (f : Func) (op : Int → Int → Int) (floats : Float → Float → Float) (n : Int64)
    (rest : List Int64) :
    f.combine op floats (wholes (n :: rest)) = (f.combineInts op n rest).map .int := by
  have hnumeric : (wholes (n :: rest)).find? (!·.isNumeric) = none := by
    refine List.find?_eq_none.2 fun v hv => ?_
    obtain ⟨m, -, rfl⟩ := List.mem_map.1 hv
    exact Bool.false_ne_true
  unfold combine
  rw [hnumeric, mapM_asInt?]

theorem map_combineInts (f : Func) (op : Int → Int → Int) (n : Int64) (rest : List Int64) :
    (f.combineInts op n rest).map Value.int =
      match if ((rest.map Int64.toInt).scanl op n.toInt).all fits then none else some (.overflow f) with
      | none => .ok (.int (Int64.ofInt ((rest.map Int64.toInt).foldl op n.toInt)))
      | some cause => .error cause := by
  rw [combineInts_eq]
  split <;> rfl

theorem sum_wholes (n : Int64) (rest : List Int64) :
    sum (wholes (n :: rest)) = (combineInts .add (· + ·) n rest).map .int := by
  have hstring : (wholes (n :: rest)).any Value.isString = false := by
    refine List.any_eq_false.2 fun v hv => ?_
    obtain ⟨m, -, rfl⟩ := List.mem_map.1 hv
    exact Bool.false_ne_true
  unfold sum
  rw [hstring]
  exact combine_wholes .add _ _ n rest

/-- **A function of whole numbers** has its exact value, or none for the reason that there is. -/
theorem apply_wholes (hf : f.IsWhole) (w : Surroundings) (ns : List Int64) (hn : f.accepts ns.length = true) :
    f.apply w (wholes ns) =
      match f.fault? (ns.map Int64.toInt) with
      | none => .ok (.int (Int64.ofInt (f.exact (ns.map Int64.toInt))))
      | some cause => .error cause := by
  rcases hf with rfl | rfl | rfl | rfl
  · obtain _ | ⟨n, rest⟩ := ns
    · cases hn
    · exact (sum_wholes n rest).trans (map_combineInts .add _ n rest)
  · obtain _ | ⟨n, _ | ⟨m, _ | ⟨k, rest⟩⟩⟩ := ns
    · cases hn
    · show (fitting .sub (-n.toInt)).map Value.int = _
      rw [fitting_eq]
      unfold fault?
      simp only [List.map_cons, List.map_nil]
      split <;> rfl
    · have hscan : ([m.toInt].scanl (· - ·) n.toInt).all fits = fits (n.toInt - m.toInt) := by
        simp [fits_toInt]
      refine (combine_wholes .sub _ (· - ·) n [m]).trans ((map_combineInts .sub _ n [m]).trans ?_)
      rw [List.map_singleton, hscan]
      rfl
    · cases hn
  · obtain _ | ⟨n, rest⟩ := ns
    · cases hn
    · exact (combine_wholes .mul _ _ n rest).trans (map_combineInts .mul _ n rest)
  · obtain _ | ⟨n, _ | ⟨m, _ | ⟨k, rest⟩⟩⟩ := ns
    · cases hn
    · cases hn
    · show remainder (.int n) (.int m) = _
      unfold remainder fault?
      simp only [List.map_cons, List.map_nil]
      by_cases hm : m.toInt = 0
      · rw [if_pos hm, if_pos hm]
      · have hquot := fits_tdiv (fits_toInt n) hm
        rw [if_neg hm, if_neg hm, fitting_eq]
        by_cases hbad : n.toInt = -0x8000000000000000 ∧ m.toInt = -1
        · rw [if_pos hbad, if_neg fun h => hquot.1 h hbad]
          rfl
        · rw [if_neg hbad, if_pos (hquot.2 hbad)]
          rfl
    · cases hn

theorem fits_exact (hf : f.IsWhole) {xs : List Int} (hn : f.accepts xs.length = true)
    (hxs : ∀ x ∈ xs, fits x = true) (hnone : f.fault? xs = none) : fits (f.exact xs) = true := by
  rcases hf with rfl | rfl | rfl | rfl
  · obtain _ | ⟨x, xs⟩ := xs
    · cases hn
    · exact fits_foldl xs x (by_contra fun h => nomatch (if_neg h).symm.trans hnone)
  · obtain _ | ⟨x, _ | ⟨y, _ | ⟨z, xs⟩⟩⟩ := xs
    · cases hn
    · exact by_contra fun h => nomatch (if_neg h).symm.trans hnone
    · exact by_contra fun h => nomatch (if_neg h).symm.trans hnone
    · cases hn
  · obtain _ | ⟨x, xs⟩ := xs
    · cases hn
    · exact fits_foldl xs x (by_contra fun h => nomatch (if_neg h).symm.trans hnone)
  · obtain _ | ⟨x, _ | ⟨y, _ | ⟨z, xs⟩⟩⟩ := xs
    · cases hn
    · cases hn
    · exact fits_tmod (hxs x List.mem_cons_self) y
    · cases hn

theorem fault?_cases {xs : List Int} {cause : FunctionError} (h : f.fault? xs = some cause) :
    (f = .mod ∧ cause = .divisionByZero) ∨ cause = .overflow f := by
  unfold fault? at h
  repeat' split at h
  all_goals cases h
  · exact .inr rfl
  · exact .inr rfl
  · exact .inr rfl
  · exact .inr rfl
  · exact .inl ⟨rfl, rfl⟩
  · exact .inr rfl

end Func

namespace Expr

variable {env : Env} {f : Func} {args : List Expr} {t : Expr}

/-! ## Expressions of whole numbers -/

/-- **An expression of whole numbers**: constants and variables that are whole, and calls with as many arguments as the
function takes. -/
inductive Whole (env : Env) : Expr → Prop
  | literal (n : Int64) : Whole env (.literal (.int n))
  | var {name : String} {n : Int64} (h : env.variableOf name = some (.int n)) : Whole env (.var name)
  | call {f : Func} {args : List Expr} (hf : f.IsWhole) (hn : f.accepts args.length = true)
      (h : ∀ a ∈ args, Whole env a) : Whole env (.call f args)

def integer (v : Value) : Int := (v.asInt?.map Int64.toInt).getD 0

mutual

/-- **The exact value of an expression of whole numbers.** -/
def exact (env : Env) : Expr → Int
  | .literal v => integer v
  | .var name => integer ((env.variableOf name).getD .null)
  | .call f args => f.exact (exactAll env args)

def exactAll (env : Env) : List Expr → List Int
  | [] => []
  | e :: rest => exact env e :: exactAll env rest

end

mutual

/-- **The calls of an expression**, in the order in which they are evaluated: those of the arguments come first. -/
def calls : Expr → List (Func × List Expr)
  | .literal _ => []
  | .var _ => []
  | .call f args => callsOf args ++ [(f, args)]

def callsOf : List Expr → List (Func × List Expr)
  | [] => []
  | e :: rest => calls e ++ callsOf rest

end

/-- **Why a call has no value**, if its arguments have theirs. -/
def fault? (env : Env) (c : Func × List Expr) : Option FunctionError := c.1.fault? (exactAll env c.2)

def firstFault? (env : Env) (cs : List (Func × List Expr)) : Option EvalError :=
  cs.findSome? fun c => (fault? env c).map fun cause => ⟨.call c.1 c.2, cause⟩

theorem exactAll_eq_map (env : Env) : ∀ args : List Expr, exactAll env args = args.map (exact env)
  | [] => rfl
  | e :: rest => by rw [exactAll, exactAll_eq_map env rest, List.map_cons]

theorem firstFault?_append (env : Env) (cs cs' : List (Func × List Expr)) :
    firstFault? env (cs ++ cs') = (firstFault? env cs).or (firstFault? env cs') := List.findSome?_append

theorem Whole.isStrict (hf : f.IsWhole) (n : Nat) : isStrict f n = true := by
  rcases hf with rfl | rfl | rfl | rfl <;> rfl

/-! ## Evaluation -/

/-- **What comes of an expression of whole numbers** if its first fault is known. -/
def outcome (env : Env) (t : Expr) : Except EvalError Value :=
  match firstFault? env t.calls with
  | none => .ok (.int (Int64.ofInt (exact env t)))
  | some e => .error e

theorem evalAll_wholes : ∀ args : List Expr, (∀ a ∈ args, eval env a = outcome env a) →
    evalAll env args =
      match firstFault? env (callsOf args) with
      | none => .ok (Func.wholes (args.map fun a => Int64.ofInt (exact env a)))
      | some e => .error e
  | [], _ => rfl
  | a :: rest, h => by
    obtain ⟨ha, hrest⟩ := List.forall_mem_cons.1 h
    rw [evalAll, ha, evalAll_wholes rest hrest, callsOf, firstFault?_append, outcome]
    cases firstFault? env a.calls with
    | some e => rfl
    | none =>
      cases firstFault? env (callsOf rest) with
      | some e => rfl
      | none => rfl

theorem firstFault?_of_mem : ∀ {args : List Expr}, firstFault? env (callsOf args) = none → ∀ a ∈ args,
    firstFault? env a.calls = none
  | [], _ => List.forall_mem_nil _
  | a :: rest, h => by
    rw [callsOf, firstFault?_append, Option.or_eq_none_iff] at h
    exact List.forall_mem_cons.2 ⟨h.1, firstFault?_of_mem h.2⟩

theorem firstFault?_call (env : Env) (f : Func) (args : List Expr) :
    firstFault? env (Expr.call f args).calls =
      (firstFault? env (callsOf args)).or ((fault? env (f, args)).map fun cause => ⟨.call f args, cause⟩) := by
  rw [calls, firstFault?_append]
  refine congrArg _ ?_
  unfold firstFault?
  rw [List.findSome?_singleton]

/-- **An expression of whole numbers has a value that fits**, unless a call is at fault. -/
theorem fits_exact (h : Whole env t) (hnone : firstFault? env t.calls = none) : fits (exact env t) = true := by
  induction h with
  | literal n => exact fits_toInt n
  | @var name n h =>
    rw [exact, h]
    exact fits_toInt n
  | @call f args hf hn h ih =>
    rw [firstFault?_call, Option.or_eq_none_iff, Option.map_eq_none_iff] at hnone
    rw [exact]
    refine Func.fits_exact hf (by rw [exactAll_eq_map, List.length_map]; exact hn) (fun x hx => ?_) hnone.2
    rw [exactAll_eq_map] at hx
    obtain ⟨a, ha, rfl⟩ := List.mem_map.1 hx
    exact ih a ha (firstFault?_of_mem hnone.1 a ha)

/-- **An expression of whole numbers has its exact value** or fails at its first fault. -/
theorem eval_whole (h : Whole env t) : eval env t = outcome env t := by
  induction h with
  | literal n =>
    show _ = Except.ok (Value.int (Int64.ofInt n.toInt))
    rw [eval, Int64.ofInt_toInt]
  | @var name n h =>
    show _ = Except.ok (Value.int (Int64.ofInt (exact env (.var name))))
    rw [eval, exact, h]
    show _ = Except.ok (Value.int (Int64.ofInt n.toInt))
    rw [Int64.ofInt_toInt]
    rfl
  | @call f args hf hn h ih =>
    rw [eval_strict (Whole.isStrict hf _), evalAll_wholes args ih, outcome, firstFault?_call]
    cases hargs : firstFault? env (callsOf args) with
    | some e => rfl
    | none =>
      have hexact : (args.map fun a => Int64.ofInt (exact env a)).map Int64.toInt = exactAll env args := by
        rw [exactAll_eq_map, List.map_map]
        exact List.map_congr_left fun a ha =>
          toInt_ofInt_of_fits (fits_exact (h a ha) (firstFault?_of_mem hargs a ha))
      have happly := Func.apply_wholes hf env.surroundings (args.map fun a => Int64.ofInt (exact env a))
        (by rw [List.length_map]; exact hn)
      rw [hexact] at happly
      simp only [Option.none_or]
      rw [happly, exact, fault?]
      cases f.fault? (exactAll env args) with
      | none => rfl
      | some cause => rfl

theorem firstFault?_eq_none {cs : List (Func × List Expr)} :
    firstFault? env cs = none ↔ ∀ c ∈ cs, fault? env c = none := by
  unfold firstFault?
  simp only [List.findSome?_eq_none_iff, Option.map_eq_none_iff]

theorem firstFault?_split {pre post : List (Func × List Expr)} {cause : FunctionError}
    (hpre : ∀ c ∈ pre, fault? env c = none) (hf : fault? env (f, args) = some cause) :
    firstFault? env (pre ++ (f, args) :: post) = some ⟨.call f args, cause⟩ := by
  rw [firstFault?_append, firstFault?_eq_none.2 hpre, Option.none_or]
  unfold firstFault?
  rw [List.findSome?_cons, hf]
  rfl

theorem build_of_ofChars {text : String} (h : ofChars (expand (Text.trim text.toList)) = .ok t) :
    build text = .ok t.fold := by
  unfold build
  simp only
  split
  · rename_i hempty
    rw [List.isEmpty_iff.1 hempty] at h
    cases h
  · rw [h]

/-! ## Building and evaluating -/

/-- **What becomes of an expression of whole numbers that is built and evaluated.**  It has a value just if no call is
at fault, and then the exact one; the first call at fault gives the error, which quotes the call with its constant parts
computed, and there are no faults but division by zero and results that do not fit. -/
structure Computed (env : Env) (t : Expr) : Prop where
  built : ∀ text, ofChars (expand (Text.trim text.toList)) = .ok t → build text = .ok t.fold
  exists_iff : (∃ v, t.fold.eval env = .ok v) ↔ ∀ c ∈ t.calls, fault? env c = none
  exact : ∀ v, t.fold.eval env = .ok v → ∃ n : Int64, v = .int n ∧ n.toInt = t.exact env
  failure : ∀ pre f args post cause, t.calls = pre ++ (f, args) :: post → (∀ c ∈ pre, fault? env c = none) →
    fault? env (f, args) = some cause → t.fold.eval env = .error ⟨(Expr.call f args).fold, cause⟩
  causes : ∀ c ∈ t.calls, ∀ cause, fault? env c = some cause →
    (c.1 = .mod ∧ cause = .divisionByZero) ∨ cause = .overflow c.1

/-- **Whole numbers are computed exactly or not at all.** -/
theorem arithmetic_exact (env : Env) (t : Expr) (h : Whole env t) : Computed env t := by
  have hagree : Agree (fun c c' => c' = c.fold) (t.eval env) (t.fold.eval env) :=
    agree_fold (fun f args hfails => (fold_of_fails hfails).symm) t
  have heval := eval_whole h
  have hvalue : ∀ v, t.fold.eval env = .ok v ↔ outcome env t = .ok v := fun v =>
    (hagree.ok_iff v).symm.trans (by rw [heval])
  have hok : ∀ {v}, outcome env t = .ok v →
      firstFault? env t.calls = none ∧ v = .int (Int64.ofInt (t.exact env)) := by
    intro v hv
    unfold outcome at hv
    split at hv
    · rename_i hnone
      cases hv
      exact ⟨hnone, rfl⟩
    · cases hv
  refine ⟨fun text => build_of_ofChars, ⟨fun ⟨v, hv⟩ => ?_, fun hall => ?_⟩, fun v hv => ?_,
    fun pre f args post cause hcalls hpre hf => ?_, fun c _ cause hc => Func.fault?_cases hc⟩
  · exact firstFault?_eq_none.1 (hok ((hvalue v).1 hv)).1
  · refine ⟨.int (Int64.ofInt (t.exact env)), (hvalue _).2 ?_⟩
    unfold outcome
    rw [firstFault?_eq_none.2 hall]
  · obtain ⟨hnone, rfl⟩ := hok ((hvalue v).1 hv)
    exact ⟨_, rfl, toInt_ofInt_of_fits (fits_exact h hnone)⟩
  · have hfirst : eval env t = .error ⟨.call f args, cause⟩ := by
      rw [heval, outcome, hcalls, firstFault?_split hpre hf]
    rw [hfirst] at hagree
    generalize t.fold.eval env = r at hagree
    cases hagree with
    | error _ hc =>
      subst hc
      rfl

/-! A result on the way may be too large where another order gives none that is. -/

/-- The surroundings in which `?A` is half the first number that is too large. -/
def halfway : Env := ⟨fun name => if name = "A" then some (.int 0x4000000000000000) else none, fun _ => none, Env.still⟩

/-- `?A - 1 + ?A` -/
def lessFirst : Expr := .call .add [.call .sub [.var "A", .literal (.int 1)], .var "A"]

/-- `?A + ?A - 1` -/
def lessLast : Expr := .call .sub [.call .add [.var "A", .var "A"], .literal (.int 1)]

theorem arithmetic_exact_halfway : Whole halfway lessFirst ∧ Whole halfway lessLast ∧
    (∃ n : Int64, lessFirst.fold.eval halfway = .ok (.int n) ∧ n.toInt = 0x7fffffffffffffff) ∧
      ∃ c, lessLast.fold.eval halfway = .error ⟨c, .overflow .add⟩ ∧ c.display = "(?A + ?A)" := by
  have hvar : Whole halfway (.var "A") := .var rfl
  have hpair : ∀ {a b : Expr}, Whole halfway a → Whole halfway b → ∀ e ∈ [a, b], Whole halfway e := fun ha hb =>
    List.forall_mem_cons.2 ⟨ha, List.forall_mem_cons.2 ⟨hb, List.forall_mem_nil _⟩⟩
  have hfirst : Whole halfway lessFirst :=
    .call (.inl rfl) rfl (hpair (.call (.inr (.inl rfl)) rfl (hpair hvar (.literal 1))) hvar)
  have hlast : Whole halfway lessLast :=
    .call (.inr (.inl rfl)) rfl (hpair (.call (.inl rfl) rfl (hpair hvar hvar)) (.literal 1))
  have hcomputed := arithmetic_exact halfway lessFirst hfirst
  obtain ⟨v, hv⟩ := hcomputed.exists_iff.2 (by decide)
  obtain ⟨n, rfl, hn⟩ := hcomputed.exact v hv
  have hfails : lessLast.fold.eval halfway = .error ⟨(Expr.call .add [.var "A", .var "A"]).fold, .overflow .add⟩ :=
    (arithmetic_exact halfway lessLast hlast).failure [] .add [.var "A", .var "A"] _ (.overflow .add) rfl
      (List.forall_mem_nil _) (by decide)
  exact ⟨hfirst, hlast, ⟨n, hv, hn.trans (by decide)⟩, _, hfails, by decide⟩

end Expr

end Remedy
