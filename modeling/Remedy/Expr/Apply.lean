import Remedy.Expr.Func
import Remedy.Pattern.Parser
import Remedy.Text.LetterCase
import Remedy.Value.Order
import Remedy.Value.Text
/-!
# Expr.Apply — what the functions compute

A function is applied to values.  Whole numbers are computed exactly and refused when the result does not fit 64
bits; as soon as one argument is a floating point number, all are taken as such.
-/
namespace Remedy

/-- What a function wanted of its arguments, and the kinds that it got. -/
inductive Mismatch
  | expectedBool (got : Value.Kind)
  | expectedString (got : Value.Kind)
  | expectedNumber (got : Value.Kind)
  | expectedIntegers (a b : Value.Kind)
  | cannotNegate (got : Value.Kind)
  | cannotDivide (a b : Value.Kind)
  | cannotCompare (a b : Value.Kind)
  deriving DecidableEq

def Mismatch.message : Mismatch → String
  | .expectedBool k => "expected bool, got " ++ k.name
  | .expectedString k => "expected string, got " ++ k.name
  | .expectedNumber k => "expected number, got " ++ k.name
  | .expectedIntegers a b => "expected integers, got " ++ a.name ++ " and " ++ b.name
  | .cannotNegate k => "cannot negate " ++ k.name
  | .cannotDivide a b => "cannot divide " ++ a.name ++ " by " ++ b.name
  | .cannotCompare a b => "cannot compare " ++ a.name ++ " with " ++ b.name

/-- **Why a function has no value.** -/
inductive FunctionError
  | typeMismatch (f : Func) (mismatch : Mismatch)
  | divisionByZero
  | invalidPattern (pattern : String)
  | overflow (f : Func)
  | noProperties
  | argumentCount (f : Func) (count : Nat)
  deriving DecidableEq

def FunctionError.message : FunctionError → String
  | .typeMismatch f m => f.name ++ ": " ++ m.message
  | .divisionByZero => "division by zero"
  | .invalidPattern pattern => "invalid pattern '" ++ pattern ++ "'"
  | .overflow f => f.name ++ ": integer overflow"
  | .noProperties => "get: property lookup needs an evaluation context"
  | .argumentCount f n => f.name ++ ": called with " ++ toString n ++ " argument(s)"

namespace Func

def fitting (f : Func) (n : Int) : Except FunctionError Int64 :=
  if -0x8000000000000000 ≤ n && n < 0x8000000000000000 then .ok (Int64.ofInt n) else .error (.overflow f)

def truth (f : Func) (v : Value) : Except FunctionError Bool :=
  match v.toBool? with
  | some b => .ok b
  | none => .error (.typeMismatch f (.expectedBool v.kind))

def textOf (f : Func) (v : Value) : Except FunctionError String :=
  match v.asString? with
  | some s => .ok s
  | none => .error (.typeMismatch f (.expectedString v.kind))

def combineInts (f : Func) (op : Int → Int → Int) (acc : Int64) : List Int64 → Except FunctionError Int64
  | [] => .ok acc
  | n :: rest => do combineInts f op (← f.fitting (op acc.toInt n.toInt)) rest

/-- Numbers combined from the left: exactly if all are whole, otherwise as floating point numbers. -/
def combine (f : Func) (ints : Int → Int → Int) (floats : Float → Float → Float) (args : List Value) :
    Except FunctionError Value :=
  match args.find? (!·.isNumeric) with
  | some v => .error (.typeMismatch f (.expectedNumber v.kind))
  | none =>
    match args.mapM Value.asInt? with
    | some [] => .ok (.int 0)
    | some (n :: rest) => (f.combineInts ints n rest).map .int
    | none =>
      match args.filterMap Value.asFloat? with
      | [] => .ok (.float 0)
      | x :: rest => .ok (.float (rest.foldl floats x))

def joined (args : List Value) : Value := .string (String.join (args.map Value.toText))

/-- The sum: of texts if one argument is a text, of time spans if all are, of numbers otherwise. -/
def sum (args : List Value) : Except FunctionError Value :=
  if args.any Value.isString then .ok (joined args)
  else match args.mapM Value.asTimespan? with
    | some spans => .ok (.timespan (spans.foldl Timespan.add Timespan.zero))
    | none => combine .add (· + ·) (· + ·) args

def difference : List Value → Except FunctionError Value
  | [.int n] => (fitting .sub (-n.toInt)).map .int
  | [.float x] => .ok (.float (-x))
  | [v] => .error (.typeMismatch .sub (.cannotNegate v.kind))
  | [.timespan a, .timespan b] => .ok (.timespan (a.sub b))
  | args => combine .sub (· - ·) (· - ·) args

/-- The quotient: whole if it comes out even, a floating point number otherwise. -/
def quotient (a b : Value) : Except FunctionError Value :=
  let floats : Except FunctionError Value :=
    match a.asFloat?, b.asFloat? with
    | some x, some y => if y == 0 then .error .divisionByZero else .ok (.float (x / y))
    | _, _ => .error (.typeMismatch .div (.cannotDivide a.kind b.kind))
  match a, b with
  | .int m, .int n =>
    if n.toInt = 0 then .error .divisionByZero
    else if Int.tmod m.toInt n.toInt = 0 then (fitting .div (Int.tdiv m.toInt n.toInt)).map .int
    else floats
  | _, _ => floats

/-- The remainder, with the sign of the dividend; refused where the quotient does not fit. -/
def remainder (a b : Value) : Except FunctionError Value :=
  match a, b with
  | .int m, .int n =>
    if n.toInt = 0 then .error .divisionByZero
    else do
      -- the remainder always fits; the quotient of the least whole number by -1 does not
      let _ ← fitting .mod (Int.tdiv m.toInt n.toInt)
      .ok (.int (Int64.ofInt (Int.tmod m.toInt n.toInt)))
  | _, _ => .error (.typeMismatch .mod (.expectedIntegers a.kind b.kind))

def ordered (f : Func) (test : Ordering → Bool) (a b : Value) : Except FunctionError Value :=
  match a.compare? b with
  | some o => .ok (.bool (test o))
  | none => .error (.typeMismatch f (.cannotCompare a.kind b.kind))

/-- All arguments are true; those behind a false one do not count. -/
def conjunction : List Value → Except FunctionError Value
  | [] => .ok (.bool true)
  | v :: rest => do if ← truth .and v then conjunction rest else .ok (.bool false)

/-- Some argument is true; those behind a true one do not count. -/
def disjunction : List Value → Except FunctionError Value
  | [] => .ok (.bool false)
  | v :: rest => do if ← truth .or v then .ok (.bool true) else disjunction rest

def matching (text pattern : Value) : Except FunctionError Value :=
  match Pattern.parse? pattern.toText with
  | some p => .ok (.bool (p.found text.toText))
  | none => .error (.invalidPattern pattern.toText)

def textTest (f : Func) (test : List Char → List Char → Bool) (a b : Value) : Except FunctionError Value := do
  let s ← f.textOf a
  let t ← f.textOf b
  .ok (.bool (test s.toList t.toList))

/-- What the functions that look outside their arguments answer: the time and a fresh identifier. -/
structure Surroundings where
  now : String
  fresh : String

/-- **The value of a function at its arguments.** -/
def apply (w : Surroundings) (f : Func) (args : List Value) : Except FunctionError Value :=
  match f, args with
  | .add, _ :: _ => sum args
  | .sub, [_] => difference args
  | .sub, [_, _] => difference args
  | .mul, _ :: _ => combine .mul (· * ·) (· * ·) args
  | .div, [a, b] => quotient a b
  | .mod, [a, b] => remainder a b
  | .eq, [a, b] => .ok (.bool (a.looselyEquals b))
  | .ne, [a, b] => .ok (.bool (!a.looselyEquals b))
  | .lt, [a, b] => ordered .lt Ordering.isLT a b
  | .le, [a, b] => ordered .le Ordering.isLE a b
  | .gt, [a, b] => ordered .gt Ordering.isGT a b
  | .ge, [a, b] => ordered .ge Ordering.isGE a b
  | .and, _ :: _ => conjunction args
  | .or, _ :: _ => disjunction args
  | .not, [a] => (truth .not a).map fun b => .bool (!b)
  | .like, [a, b] => matching a b
  | .get, [_] => .error .noProperties
  | .concat, _ :: _ => .ok (joined args)
  | .expression, _ :: _ => .ok (joined args)
  | .lower, [a] => (textOf .lower a).map fun s => .string (Text.lower s)
  | .upper, [a] => (textOf .upper a).map fun s => .string (Text.upper s)
  | .len, [a] => (textOf .len a).map fun s => .int (Int64.ofNat s.length)
  | .contains, [a, b] => textTest .contains (fun s t => Text.contains t s) a b
  | .startsWith, [a, b] => textTest .startsWith (fun s t => Text.startsWith t s) a b
  | .endsWith, [a, b] => textTest .endsWith (fun s t => Text.endsWith t s) a b
  | .iif, [c, a, b] => (truth .iif c).map fun yes => if yes then a else b
  | .now, [] => .ok (.string w.now)
  | .guid, [] => .ok (.string w.fresh)
  | _, _ => .error (.argumentCount f args.length)

end Func

end Remedy
