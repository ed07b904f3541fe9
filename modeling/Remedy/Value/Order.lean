import Remedy.Value.Basic
/-!
# Value.Order — comparing values

Values of one kind compare by their kind's order: whole numbers by size, texts by code points, false before true,
time spans by length; the absent value equals itself.  A whole number and a floating point number compare as doubles,
and a time span compares with the clock form of another.  Every other pair is incomparable.
-/
namespace Remedy

/-- The order of two doubles; none when one of them is not a number. -/
def compareFloat (x y : Float) : Option Ordering :=
  if x < y then some .lt
  else if x == y then some .eq
  else if y < x then some .gt
  else none

namespace Value

/-- **The order of two values**, if they are comparable. -/
def compare? : Value → Value → Option Ordering
  | .int a, .int b => some (compare a.toInt b.toInt)
  | .string a, .string b => some (compare a b)
  | .bool a, .bool b => some (compare a b)
  | .timespan a, .timespan b => some (compare a.nanos b.nanos)
  | .timespan a, .string b => (Timespan.parse? b).map fun b => compare a.nanos b.nanos
  | .string a, .timespan b => (Timespan.parse? a).map fun a => compare a.nanos b.nanos
  | .null, .null => some .eq
  -- a whole number is compared with a double as a double; what is left has no order
  | a, b =>
    match a.asFloat?, b.asFloat? with
    | some x, some y => compareFloat x y
    | _, _ => none

/-- **Equality as rules see it**: numbers by size, documents by content, everything else by order. -/
def looselyEquals : Value → Value → Bool
  | .json a, .json b => a == b
  | a, b => a.compare? b == some .eq

end Value

end Remedy
