import Remedy.Rule.Error
/-!
# Rule.Parser — rules and goals from their text

The head and the body of a rule are parted by the first `:-` outside quotes and brackets, and the goals of the body
by commas.  A goal with a single equals sign unifies two terms, one with the word `is` computes a value, and one with
any other sign of an expression is a test; what is left calls a predicate.
-/
namespace Remedy.Rule

/-- The first `:-` outside quotes and brackets. -/
def neck? : List (Nat × Char) → Option Nat
  | (i, ':') :: (j, '-') :: rest => if j = i + 1 then some i else neck? ((j, '-') :: rest)
  | _ :: rest => neck? rest
  | [] => none

/-- The call that a term is; a bare word calls the predicate of that name. -/
def callOf? : Term → Option Call
  | .compound f args => some ⟨f, args⟩
  | .const (.string name) => some ⟨name, []⟩
  | .const (.bool true) => some ⟨"true", []⟩
  | .const (.bool false) => some ⟨"fail", []⟩
  | _ => none

def call (vars : VarTable) (cs : List Char) : Except SyntaxError (Call × VarTable) :=
  match Term.parseChars vars cs with
  | .error e => .error e
  | .ok (t, vars) =>
    match callOf? t with
    | some c => .ok (c, vars)
    | none => .error ⟨.notPredicate (String.ofList cs), 0⟩

mutual

def hasTemplate : Term → Bool
  | .template _ => true
  | .compound _ args => haveTemplate args
  | _ => false

def haveTemplate : List (Arg Term) → Bool
  | [] => false
  | a :: rest => hasTemplate a.value || haveTemplate rest

end

/-- The head of a rule, which has no templates. -/
def head (vars : VarTable) (cs : List Char) : Except SyntaxError (Call × VarTable) :=
  match call vars cs with
  | .error e => .error e
  | .ok (c, vars) => if haveTemplate c.args then .error ⟨.templateInHead, 0⟩ else .ok (c, vars)

/-- The expression that a text spells; its variables take slots in the order of their names. -/
def expression (vars : VarTable) (cs : List Char) : Except SyntaxError (Expr × VarTable) :=
  match Expr.build (String.ofList cs) with
  | .error e => .error ⟨.expression e, 0⟩
  | .ok e => .ok (e, vars.addAll e.varNames)

/-- The round brackets outside quotes are closed in order, the text being inside `depth` of them. -/
def balanced (depth : Nat) (quote : Option Text.OpenQuote) : List Char → Bool
  | [] => depth == 0
  | c :: cs =>
    match quote with
    | some q => balanced depth (q.next c) cs
    | none =>
      if Text.isQuote c then balanced depth (some ⟨c, false⟩) cs
      else if c = '(' then balanced (depth + 1) none cs
      else if c = ')' then
        match depth with
        | 0 => false
        | d + 1 => balanced d none cs
      else balanced depth none cs

def negated? (cs : List Char) : Option (List Char) :=
  match Text.after? ['n', 'o', 't'] cs with
  | none => none
  | some rest =>
    match Text.trimStart rest with
    -- in `not(a) = not(b)` the first and the last bracket are no pair
    | '(' :: rest => (Text.dropLast? ')' rest).filter (balanced 0 none)
    | _ => none

/-- The first ` is ` whose first blank stands outside quotes and brackets. -/
def isWord? (cs : List Char) (outer : List (Nat × Char)) : Option Nat :=
  (outer.find? fun (i, c) => c == ' ' && Text.startsWith [' ', 'i', 's', ' '] (cs.drop i)).map (·.1)

/-- A sign that makes an equals sign after it part of a comparison. -/
def joinsEquals (c : Char) : Bool := c == '=' || c == '!' || c == '<' || c == '>'

/-- The first equals sign outside quotes and brackets that stands for itself. -/
def equals? (cs : List Char) (outer : List (Nat × Char)) : Option Nat :=
  (outer.find? fun (i, c) =>
    c == '=' && !(i != 0 && (cs[i - 1]?).any joinsEquals) && cs[i + 1]? != some '=').map (·.1)

/-- A sign that only expressions have. -/
def isTestSign (c : Char) : Bool :=
  c == '=' || c == '<' || c == '>' || c == '!' || c == '~' || c == '&' || c == '|'

/-- A goal that is neither a cut nor a negation, without blanks around it. -/
def plainGoal (vars : VarTable) (cs : List Char) : Except SyntaxError (Goal Unit × VarTable) :=
  let outer := Text.outer cs
  match isWord? cs outer with
  | some i =>
    match Term.parseChars vars (Text.trim (cs.take i)) with
    | .error e => .error e
    | .ok (target, vars) => (expression vars (Text.trim (cs.drop (i + 4)))).map fun (e, vars) => (.is target e, vars)
  | none =>
    match equals? cs outer with
    | some i =>
      match Term.parseChars vars (Text.trim (cs.take i)) with
      | .error e => .error e
      | .ok (a, vars) =>
        (Term.parseChars vars (Text.trim (cs.drop (i + 1)))).map fun (b, vars) => (.unify a b, vars)
    | none =>
      if outer.any fun (_, c) => isTestSign c then (expression vars cs).map fun (e, vars) => (.test e, vars)
      else (call vars cs).map fun (c, vars) => (.call () c, vars)

def goalIn : Nat → VarTable → List Char → Except SyntaxError (Goal Unit × VarTable)
  | 0, _, _ => .error ⟨.emptyGoal, 0⟩
  | fuel + 1, vars, cs =>
    let cs := Text.trim cs
    if cs.isEmpty then .error ⟨.emptyGoal, 0⟩
    else if cs = ['!'] then .ok (.cut, vars)
    else match negated? cs with
      | some inner => (goalIn fuel vars inner).map fun (g, vars) => (.not g, vars)
      | none => plainGoal vars cs

/-- **The goal that a text spells.** -/
def goal (vars : VarTable) (cs : List Char) : Except SyntaxError (Goal Unit × VarTable) :=
  goalIn (cs.length + 1) vars cs

def goals (vars : VarTable) : List (List Char) → Except SyntaxError (List (Goal Unit) × VarTable)
  | [] => .ok ([], vars)
  | cs :: rest =>
    match goal vars cs with
    | .error e => .error e
    | .ok (g, vars) => (goals vars rest).map fun (gs, vars) => (g :: gs, vars)

def body (vars : VarTable) (cs : List Char) : Except SyntaxError (List (Goal Unit) × VarTable) :=
  if (Text.trim cs).isEmpty then .error ⟨.emptyBody, cs.length⟩ else goals vars (Text.splitOuter ',' cs)

def headAndBody (cs : List Char) : Except SyntaxError (Call × List (Goal Unit) × VarTable) :=
  match neck? (Text.outer cs) with
  | none => (head .empty (Text.trim cs)).map fun (h, vars) => (h, [], vars)
  | some i =>
    match head .empty (Text.trim (cs.take i)) with
    | .error e => .error e
    | .ok (h, vars) => (body vars (cs.drop (i + 2))).map fun (gs, vars) => (h, gs, vars)

/-- **The rule that a text spells.** -/
def parse (rule : RuleText) : Except CompileError (Clause Unit) :=
  match headAndBody rule.text.toList with
  | .ok (h, gs, vars) => .ok ⟨h, gs, vars, rule.text, rule.line⟩
  | .error e => .error (.notSyntax rule e.cause)

end Remedy.Rule
