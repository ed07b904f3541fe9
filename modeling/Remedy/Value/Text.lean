import Remedy.Decimal.Shortest
import Remedy.Json.Printer
import Remedy.Text.Quoted
import Remedy.Value.Basic
/-!
# Value.Text — the written form of a value

`display` is the form in which a value stands in a rule: texts are quoted.  `toText` is the bare form that goes into
other texts: a text as it is, and nothing at all for the absent value.
-/
namespace Remedy.Value

/-- **The value as it stands in a rule.** -/
def display : Value → String
  | .bool true => "true"
  | .bool false => "false"
  | .int n => toString n.toInt
  | .float x => Decimal.floatText x
  | .string s => Text.quoted s
  | .timespan d => d.text
  | .json j => j.render
  | .null => "null"

/-- **The value inside another text.** -/
def toText : Value → String
  | .string s => s
  | .null => ""
  | v => v.display

end Remedy.Value
