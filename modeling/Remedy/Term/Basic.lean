import Remedy.Decimal.Read
import Remedy.Expr.Build
/-!
# Term — what rules, goals and answers are made of

A term is a constant, a variable, a compound term whose arguments may have names, a template that is evaluated when
its goal is called, or the empty list.  A list is built from cells: compound terms with the functor `.` and two
arguments, the first item and the rest.  A variable is known by its slot; its name is for reading and printing.
-/
namespace Remedy

structure Arg (α : Type) where
  name : Option String
  value : α

/-- **A term.** -/
inductive Term
  | const (v : Value)
  | var (name : String) (slot : Nat)
  | compound (functor : String) (args : List (Arg Term))
  | template (e : Expr)
  | nil

/-- A functor applied to arguments: a goal, the head of a rule, a fact. -/
structure Call where
  functor : String
  args : List (Arg Term)

namespace Term

instance : Inhabited Term := ⟨.nil⟩

def ofCall (c : Call) : Term := .compound c.functor c.args

def asConst? : Term → Option Value
  | .const v => some v
  | _ => none

def asCall? : Term → Option Call
  | .compound f args => some ⟨f, args⟩
  | _ => none

def isVar : Term → Bool
  | .var _ _ => true
  | _ => false

def cellFunctor : String := "."

def cell (head tail : Term) : Term := .compound cellFunctor [⟨none, head⟩, ⟨none, tail⟩]

def list (items : List Term) (tail : Term) : Term := items.foldr cell tail

mutual

/-- **The term has no variable and no template.** -/
def isGround : Term → Bool
  | .const _ => true
  | .var _ _ => false
  | .compound _ args => areGround args
  | .template _ => false
  | .nil => true

def areGround : List (Arg Term) → Bool
  | [] => true
  | a :: rest => isGround a.value && areGround rest

end

mutual

/-- The term with every variable replaced. -/
def bind (f : String → Nat → Term) : Term → Term
  | .const v => .const v
  | .var name slot => f name slot
  | .compound functor args => .compound functor (bindArgs f args)
  | .template e => .template e
  | .nil => .nil

def bindArgs (f : String → Nat → Term) : List (Arg Term) → List (Arg Term)
  | [] => []
  | a :: rest => ⟨a.name, bind f a.value⟩ :: bindArgs f rest

end

/-- **The term with every slot moved up** by `base`. -/
def offset (base : Nat) (t : Term) : Term :=
  if t.isGround then t else t.bind fun name slot => .var name (slot + base)

mutual

def span : Term → Nat
  | .const _ => 0
  | .var _ slot => slot + 1
  | .compound _ args => spanOf args
  | .template _ => 0
  | .nil => 0

def spanOf : List (Arg Term) → Nat
  | [] => 0
  | a :: rest => max (span a.value) (spanOf rest)

end

mutual

/-- How many constants, variables, functors, templates and ends of lists the term has. -/
def size : Term → Nat
  | .const _ => 1
  | .var _ _ => 1
  | .compound _ args => sizeOfArgs args + 1
  | .template _ => 1
  | .nil => 1

def sizeOfArgs : List (Arg Term) → Nat
  | [] => 0
  | a :: rest => size a.value + sizeOfArgs rest

end

/-- The items of a list and what stands after the last one; a term that is no cell is all tail. -/
def parts : Term → List Term × Term
  | .compound f [a, b] =>
    if f = cellFunctor then
      let (items, tail) := parts b.value
      (a.value :: items, tail)
    else ([], .compound f [a, b])
  | t => ([], t)

/-- **The items and the tail of a list**; a term that is no list has neither. -/
def items? (t : Term) : Option (List Term × Term) :=
  match t, t.parts with
  | .nil, p => some p
  | _, ([], _) => none
  | _, p => some p

mutual

/-- The two terms are the same; templates are compared by their texts. -/
def same : Term → Term → Bool
  | .const v, .const w => v == w
  | .var n i, .var m j => n == m && i == j
  | .compound f as, .compound g bs => f == g && sameArgs as bs
  | .template e, .template d => e.display == d.display
  | .nil, .nil => true
  | _, _ => false

def sameArgs : List (Arg Term) → List (Arg Term) → Bool
  | [], [] => true
  | a :: as, b :: bs => a.name == b.name && same a.value b.value && sameArgs as bs
  | _, _ => false

end

instance : BEq Term := ⟨same⟩

end Term

/-- **How an argument is asked for**: by position or by name.  A name that is a number in decimal digits asks for that
position. -/
inductive ArgKey
  | position (n : Nat)
  | name (s : String)
  deriving DecidableEq

namespace ArgKey

def parse (text : String) : ArgKey :=
  match Decimal.unsigned? text.toList with
  | some n => .position n
  | none => .name text

/-- Both keys ask for the same argument. -/
def agrees : ArgKey → ArgKey → Bool
  | .position a, .position b => a == b
  | .name a, .name b => a == b
  | .position n, .name s => Decimal.unsigned? s.toList == some n
  | .name s, .position n => Decimal.unsigned? s.toList == some n

def text : ArgKey → String
  | .position n => toString n
  | .name s => s

end ArgKey

/-- The key of an argument: its name, or else its position. -/
def Arg.key (a : Arg α) (position : Nat) : ArgKey :=
  match a.name with
  | some name => .name name
  | none => .position position

namespace Call

def arity (c : Call) : Nat := c.args.length

def hasNames (c : Call) : Bool := c.args.any (·.name.isSome)

def isGround (c : Call) : Bool := Term.areGround c.args

def isCell (c : Call) : Bool := c.functor == Term.cellFunctor && c.arity == 2

/-- Looks for the argument under a key among arguments from position `i` on. -/
def argAt? (key : ArgKey) (i : Nat) : List (Arg Term) → Option Term
  | [] => none
  | a :: rest => if (a.key i).agrees key then some a.value else argAt? key (i + 1) rest

/-- **The argument under a key.** -/
def get? (c : Call) (key : ArgKey) : Option Term := argAt? key 0 c.args

/-- The argument with a name, or else the one at a position. -/
def lookup? (c : Call) (position : Nat) (name : String) : Option Term :=
  (c.get? (.name name)).orElse fun _ => c.get? (.position position)

def span (c : Call) : Nat := Term.spanOf c.args

def offset (base : Nat) (c : Call) : Call :=
  if c.isGround then c else ⟨c.functor, Term.bindArgs (fun name slot => .var name (slot + base)) c.args⟩

end Call

end Remedy
