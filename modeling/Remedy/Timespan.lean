import Remedy.Decimal.Read
import Remedy.Text.Blank
/-!
# Timespan — lengths of time and their clock form

A time span is a whole number of nanoseconds, fewer than 2⁶⁴ seconds.  Its clock form is `[d.]hh:mm:ss[.fff]`: days
before a point when there are any, and milliseconds after a point when there are any.  Reading allows more than
writing makes: one to nine digits after the point, hours and seconds of any width, and blanks around the whole.
-/
namespace Remedy

/-- **A length of time**, in nanoseconds. -/
structure Timespan where
  nanos : Nat
  inRange : nanos < 18446744073709551616000000000
  deriving DecidableEq

namespace Timespan

def zero : Timespan := ⟨0, by decide⟩

def longest : Timespan := ⟨18446744073709551616000000000 - 1, by decide⟩

def ofNanos? (n : Nat) : Option Timespan :=
  if h : n < 18446744073709551616000000000 then some ⟨n, h⟩ else none

/-- The time span of so many nanoseconds, the longest if that is too many. -/
def ofNanos (n : Nat) : Timespan := (ofNanos? n).getD longest

def ofMillis (n : Nat) : Timespan := ofNanos (n * 1000000)

def seconds (d : Timespan) : Nat := d.nanos / 1000000000

def subsecond (d : Timespan) : Nat := d.nanos % 1000000000

def millis (d : Timespan) : Nat := d.nanos / 1000000

def isZero (d : Timespan) : Bool := d.nanos == 0

def add (a b : Timespan) : Timespan := ofNanos (a.nanos + b.nanos)

/-- What the first time span is longer than the second, none if it is shorter. -/
def sub (a b : Timespan) : Timespan := ⟨a.nanos - b.nanos, Nat.lt_of_le_of_lt (Nat.sub_le ..) a.inRange⟩

/-- A number with at least `width` digits. -/
def padded (width n : Nat) : List Char :=
  let ds := Nat.toDigits 10 n
  List.replicate (width - ds.length) '0' ++ ds

def chars (d : Timespan) : List Char :=
  let total := d.seconds
  let days := total / 86400
  let millis := d.subsecond / 1000000
  (if 0 < days then Nat.toDigits 10 days ++ ['.'] else [])
    ++ padded 2 (total % 86400 / 3600) ++ ':' :: padded 2 (total % 3600 / 60) ++ ':' :: padded 2 (total % 60)
    ++ (if 0 < millis then '.' :: padded 3 millis else [])

/-- **The clock form** `[d.]hh:mm:ss[.fff]`; what is below a millisecond is dropped. -/
def text (d : Timespan) : String := String.ofList d.chars

def daysHours? (cs : List Char) : Option (Nat × Nat) :=
  match Text.cutAt '.' cs with
  | some (d, h) =>
    match Decimal.unsigned? d, Decimal.unsigned? h with
    | some days, some hours => some (days, hours)
    | _, _ => none
  | none => (Decimal.unsigned? cs).map (0, ·)

/-- The seconds and nanoseconds of the last field: one to nine digits after the point. -/
def secondsNanos? (cs : List Char) : Option (Nat × Nat) :=
  match Text.cutAt '.' cs with
  | some (s, fraction) =>
    if fraction.isEmpty || 9 < fraction.length || !fraction.all Decimal.isDigit then none
    else (Decimal.unsigned? s).map
      (·, Decimal.ofDigits 0 (fraction ++ List.replicate (9 - fraction.length) '0'))
  | none => (Decimal.unsigned? cs).map (·, 0)

def ofFields? (first second third : List Char) : Option Timespan :=
  match daysHours? first, Decimal.unsigned? second, secondsNanos? third with
  | some (days, hours), some minutes, some (seconds, nanos) =>
    if 23 < hours || 59 < minutes || second.length ≠ 2 || 59 < seconds then none
    else ofNanos? ((days * 86400 + hours * 3600 + minutes * 60 + seconds) * 1000000000 + nanos)
  | _, _, _ => none

/-- **A time span from its clock form.** -/
def ofChars? (cs : List Char) : Option Timespan :=
  match Text.pieces ':' (Text.trim cs) with
  | [first, second, third] => ofFields? first second third
  | _ => none

def parse? (s : String) : Option Timespan := ofChars? s.toList

end Timespan

end Remedy
