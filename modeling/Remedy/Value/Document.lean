import Remedy.Json.Printer
import Remedy.Json.Selection
import Remedy.Value.Basic
/-!
# Value.Document — values as documents

A value is stored as an object with the name of its kind under `type` and its content under `value`; the absent value
has no content.  The kind may also be the one key of an object that holds nothing.  A time span's content is an object of whole seconds under `secs` and nanoseconds under `nanos`.
-/
namespace Remedy.Value

/-- A whole number that is not negative, of a document. -/
def naturalOf? : Json → Option Nat
  | .number (.natural n) => some n.toNat
  | _ => none

def intOf? : Json → Option Int64
  | .number (.natural n) => if n.toNat < 0x8000000000000000 then some (Int64.ofNat n.toNat) else none
  | .number (.negative n) => some n
  | _ => none

def floatOf? : Json → Option Float
  | .number (.natural n) => some (Float.ofNat n.toNat)
  | .number (.negative n) => some (Float.ofInt n.toInt)
  | .number (.float x) => some x
  | _ => none

/-- A time span from seconds and nanoseconds; nanoseconds beyond a second carry over. -/
def timespanOfParts? (secs nanos : Json) : Option Timespan :=
  match naturalOf? secs, naturalOf? nanos with
  | some s, some n => if n < 0x100000000 then Timespan.ofNanos? (s * 1000000000 + n) else none
  | _, _ => none

/-- The content of a time span: the object of its two parts, or the list of them. -/
def timespanOf? : Json → Option Timespan
  | .object [("secs", s), ("nanos", n)] => timespanOfParts? s n
  | .object [("nanos", n), ("secs", s)] => timespanOfParts? s n
  | .array [s, n] => timespanOfParts? s n
  | _ => none

def ofContent? (kind : String) (content : Option Json) : Option Value :=
  match kind, content with
  | "null", none => some .null
  | "null", some .null => some .null
  | "bool", some (.bool b) => some (.bool b)
  | "int", some j => (intOf? j).map .int
  | "float", some j => (floatOf? j).map .float
  | "string", some (.string s) => some (.string s)
  | "duration", some j => (timespanOf? j).map .timespan
  | "structured", some j => some (.json j.normal)
  | _, _ => none

/-- The name of a kind in an object: a text, or an object with that one key and nothing under it. -/
def kindOf? : Json → Option String
  | .string kind => some kind
  | .object [(kind, .null)] => some kind
  | _ => none

/-- **The value that a document stores**: a kind, and content at most once, among members that do not count. -/
def ofJson? : Json → Option Value
  | .object members =>
    match members.filter (·.1 == "type"), members.filter (·.1 == "value") with
    | [(_, kind)], [] => (kindOf? kind).bind (ofContent? · none)
    | [(_, kind)], [(_, content)] => (kindOf? kind).bind (ofContent? · (some content))
    | _, _ => none
  | .array [.string kind, content] => ofContent? kind (some content)
  | _ => none

/-- **The value stored in a text.** -/
def restore? (text : String) : Option Value := (Json.select? ["type", "value"] text).bind ofJson?

def jsonOfInt (n : Int64) : Json :=
  if 0 ≤ n.toInt then .number (.natural n.toInt.toNat.toUInt64) else .number (.negative n)

def content? : Value → Option Json
  | .bool b => some (.bool b)
  | .int n => some (jsonOfInt n)
  | .float x => some (.number (.float x))
  | .string s => some (.string s)
  | .timespan d => some (.object [("secs", .number (.natural d.seconds.toUInt64)),
      ("nanos", .number (.natural d.subsecond.toUInt64))])
  | .json j => some j
  | .null => none

/-- **The document that stores a value.** -/
def toJson (v : Value) : Json :=
  .object (("type", .string v.typeName) :: match v.content? with
    | some j => [("value", j)]
    | none => [])

end Remedy.Value
