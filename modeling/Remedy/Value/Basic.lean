import Remedy.Decimal.Read
import Remedy.Json.Basic
import Remedy.Timespan
/-!
# Value — the constants of rules and expressions

Numbers, texts, truth values and time spans are what rules compare; a document is only passed on.  A word without
quotes is read as the most special kind of value it spells, and is a text when it spells nothing else.
-/
namespace Remedy

/-- **A constant.** -/
inductive Value
  | bool (b : Bool)
  | int (n : Int64)
  | float (x : Float)
  | string (s : String)
  | timespan (d : Timespan)
  | json (j : Json)
  | null
  deriving BEq

namespace Value

instance : Inhabited Value := ⟨.null⟩

inductive Kind
  | bool
  | int
  | float
  | string
  | timespan
  | json
  | null
  deriving DecidableEq

def Kind.name : Kind → String
  | .bool => "bool"
  | .int => "int"
  | .float => "float"
  | .string => "string"
  | .timespan => "duration"
  | .json => "structured"
  | .null => "null"

def kind : Value → Kind
  | .bool _ => .bool
  | .int _ => .int
  | .float _ => .float
  | .string _ => .string
  | .timespan _ => .timespan
  | .json _ => .json
  | .null => .null

def typeName (v : Value) : String := v.kind.name

def isBool : Value → Bool | .bool _ => true | _ => false

def isInt : Value → Bool | .int _ => true | _ => false

def isFloat : Value → Bool | .float _ => true | _ => false

def isNumeric (v : Value) : Bool := v.isInt || v.isFloat

def isString : Value → Bool | .string _ => true | _ => false

def isTimespan : Value → Bool | .timespan _ => true | _ => false

def isJson : Value → Bool | .json _ => true | _ => false

def isNull : Value → Bool | .null => true | _ => false

def asInt? : Value → Option Int64 | .int n => some n | _ => none

/-- A number as a double; a whole number becomes the nearest one. -/
def asFloat? : Value → Option Float
  | .float x => some x
  | .int n => some (Float.ofInt n.toInt)
  | _ => none

def asString? : Value → Option String | .string s => some s | _ => none

def asTimespan? : Value → Option Timespan | .timespan d => some d | _ => none

/-- A value read as a time span: one, the clock form of one, or a number of seconds that is not negative. -/
def toTimespan? : Value → Option Timespan
  | .timespan d => some d
  | .string s => Timespan.parse? s
  | .int n => if 0 ≤ n.toInt then some (Timespan.ofNanos (n.toInt.toNat * 1000000000)) else none
  | _ => none

/-- A value read as a truth value: one, or the word for one in any case. -/
def toBool? : Value → Option Bool
  | .bool b => some b
  | .string s =>
    let word := s.toList.map Char.toLower
    if word = ['t', 'r', 'u', 'e'] then some true
    else if word = ['f', 'a', 'l', 's', 'e'] then some false
    else none
  | _ => none

/-- The word has the shape of a number: a digit first, after a minus sign or none, and then only what numbers are
made of.  It keeps words such as `inf` and `+5.0` from being numbers. -/
def looksNumeric (cs : List Char) : Bool :=
  let body := match cs with
    | '-' :: rest => rest
    | _ => cs
  match body with
  | [] => false
  | c :: _ =>
    Decimal.isDigit c &&
      body.all fun c => Decimal.isDigit c || c == '.' || c == 'e' || c == 'E' || c == '+' || c == '-'

/-- The floating point number that a word spells. -/
def floatLiteral? (cs : List Char) : Option Float :=
  if looksNumeric cs then Decimal.float? cs else none

def ofWord (cs : List Char) : Value :=
  if cs = ['t', 'r', 'u', 'e'] then .bool true
  else if cs = ['f', 'a', 'l', 's', 'e'] then .bool false
  else if cs = ['n', 'u', 'l', 'l'] then .null
  else match Decimal.signed? cs with
    | some n => .int n
    | none =>
      match floatLiteral? cs with
      | some x => .float x
      | none =>
        match Timespan.ofChars? cs with
        | some d => .timespan d
        | none => .string (String.ofList cs)

/-- **The value of a word without quotes.** -/
def parse (word : String) : Value := ofWord word.toList

end Value

end Remedy
