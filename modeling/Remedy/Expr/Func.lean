import Remedy.Text.Blank
import Remedy.Text.LetterCase
/-!
# Expr.Func — the functions that expressions call

Every function has a call name; the operators have a sign besides.  The number of arguments that a function takes is
fixed by a table, and the parser makes no call with another number.
-/
namespace Remedy

/-- **A function of the expression language.** -/
inductive Func
  | add
  | sub
  | mul
  | div
  | mod
  | eq
  | ne
  | lt
  | le
  | gt
  | ge
  | and
  | or
  | not
  | like
  | get
  | concat
  | lower
  | upper
  | len
  | contains
  | startsWith
  | endsWith
  | iif
  | expression
  | now
  | guid
  deriving DecidableEq

namespace Func

def all : List Func :=
  [.add, .sub, .mul, .div, .mod, .eq, .ne, .lt, .le, .gt, .ge, .and, .or, .not, .like, .get, .concat, .lower, .upper,
    .len, .contains, .startsWith, .endsWith, .iif, .expression, .now, .guid]

def name : Func → String
  | .add => "add"
  | .sub => "sub"
  | .mul => "mul"
  | .div => "div"
  | .mod => "mod"
  | .eq => "eq"
  | .ne => "ne"
  | .lt => "lt"
  | .le => "le"
  | .gt => "gt"
  | .ge => "ge"
  | .and => "and"
  | .or => "or"
  | .not => "not"
  | .like => "match"
  | .get => "get"
  | .concat => "concat"
  | .lower => "lower"
  | .upper => "upper"
  | .len => "len"
  | .contains => "contains"
  | .startsWith => "startswith"
  | .endsWith => "endswith"
  | .iif => "iif"
  | .expression => "expression"
  | .now => "now"
  | .guid => "guid"

def symbol? : Func → Option String
  | .add => some "+"
  | .sub => some "-"
  | .mul => some "*"
  | .div => some "/"
  | .mod => some "%"
  | .eq => some "=="
  | .ne => some "!="
  | .lt => some "<"
  | .le => some "<="
  | .gt => some ">"
  | .ge => some ">="
  | .and => some "&&"
  | .or => some "||"
  | .not => some "!"
  | .like => some "~~"
  | _ => none

def least : Func → Nat
  | .now | .guid => 0
  | .not | .lower | .upper | .len | .get | .sub | .add | .mul | .and | .or | .concat | .expression => 1
  | .eq | .ne | .lt | .le | .gt | .ge | .div | .mod | .like | .contains | .startsWith | .endsWith => 2
  | .iif => 3

def most : Func → Option Nat
  | .now | .guid => some 0
  | .not | .lower | .upper | .len | .get => some 1
  | .sub | .eq | .ne | .lt | .le | .gt | .ge | .div | .mod | .like | .contains | .startsWith | .endsWith => some 2
  | .iif => some 3
  | .add | .mul | .and | .or | .concat | .expression => none

/-- **The function takes `n` arguments.** -/
def accepts (f : Func) (n : Nat) : Bool := decide (f.least ≤ n) && f.most.all (n ≤ ·)

/-- The function gives the same value whenever its arguments do; the time, a fresh identifier and a property do not
hang on the arguments alone. -/
def isFoldable : Func → Bool
  | .now | .guid | .get => false
  | _ => true

/-- The function called by a name, in any case and with blanks around it. -/
def ofChars? (name : List Char) : Option Func :=
  let word := (Text.trim name).map Char.toLower
  all.find? fun f => f.name.toList == word

def ofName? (name : String) : Option Func := ofChars? name.toList

end Func

end Remedy
