import Remedy.Decimal.Read
import Remedy.Text.Hex
import Remedy.Toml.Basic
/-!
# Toml.Number — numbers, dates and times of a TOML document

Digits may be grouped by single underscores between them.  A whole number fits 64 bits with a sign, and may be written
to the base 16, 8 or 2; a number with a fraction or an exponent is read as the nearest double and must not be beyond
the greatest one.  Dates exist in the calendar; times may have a leap second.
-/
namespace Remedy.Toml

/-- The rest of a run of digits with single underscores between them, and the digits without these. -/
def groupRest (digit : Char → Bool) : List Char → Option (List Char × List Char)
  | '_' :: c :: cs => if digit c then (groupRest digit cs).map fun (ds, rest) => (c :: ds, rest) else none
  | ['_'] => none
  | c :: cs => if digit c then (groupRest digit cs).map fun (ds, rest) => (c :: ds, rest) else some ([], c :: cs)
  | [] => some ([], [])

/-- A run of at least one digit with single underscores between them. -/
def group? (digit : Char → Bool) : List Char → Option (List Char × List Char)
  | c :: cs => if digit c then (groupRest digit cs).map fun (ds, rest) => (c :: ds, rest) else none
  | [] => none

/-- The digits of a whole number: a zero alone, or digits that do not start with one. -/
def whole? : List Char → Option (List Char × List Char)
  | '0' :: cs => some (['0'], cs)
  | cs => group? Decimal.isDigit cs

/-- The exponent of a number from its letter on, as text, or nothing where there is none. -/
def exponent? : List Char → Option (List Char × List Char)
  | c :: cs =>
    if c = 'e' || c = 'E' then
      match cs with
      | '+' :: ds => (group? Decimal.isDigit ds).map fun (ds, rest) => ('e' :: ds, rest)
      | '-' :: ds => (group? Decimal.isDigit ds).map fun (ds, rest) => ('e' :: '-' :: ds, rest)
      | ds => (group? Decimal.isDigit ds).map fun (ds, rest) => ('e' :: ds, rest)
    else some ([], c :: cs)
  | [] => some ([], [])

/-- The fraction of a number from its point on, as text, or nothing where there is none. -/
def fraction? : List Char → Option (List Char × List Char)
  | '.' :: cs => (group? Decimal.isDigit cs).map fun (ds, rest) => ('.' :: ds, rest)
  | cs => some ([], cs)

/-- The double that a text spells, unless it is beyond the greatest one. -/
def finite? (cs : List Char) : Option Toml :=
  ((Decimal.float? cs).filter fun x => !(x.isInf && 0 < x)).map .float

/-- A number after its sign, which is the given text. -/
def decimal? (sign : List Char) : List Char → Option (Toml × List Char)
  | 'i' :: 'n' :: 'f' :: cs => (Decimal.float? (sign ++ ['i', 'n', 'f'])).map fun x => (.float x, cs)
  | 'n' :: 'a' :: 'n' :: cs => (Decimal.float? (sign ++ ['n', 'a', 'n'])).map fun x => (.float x, cs)
  | cs => do
    let (digits, cs) ← whole? cs
    let (fraction, cs) ← fraction? cs
    let (exponent, cs) ← exponent? cs
    let value ←
      if fraction.isEmpty && exponent.isEmpty then (Decimal.signed? (sign ++ digits)).map .int
      else finite? (sign ++ digits ++ fraction ++ exponent)
    some (value, cs)

/-- A whole number to another base. -/
def based? (base : Nat) (cs : List Char) : Option (Toml × List Char) :=
  (group? (fun c => (Text.hexValue? c).any (· < base)) cs).bind fun (ds, rest) =>
    let n := ds.foldl (fun n c => n * base + (Text.hexValue? c).getD 0) 0
    if n < 0x8000000000000000 then some (.int (Int64.ofNat n), rest) else none

/-- **A number.** -/
def number? : List Char → Option (Toml × List Char)
  | '0' :: 'x' :: cs => based? 16 cs
  | '0' :: 'o' :: cs => based? 8 cs
  | '0' :: 'b' :: cs => based? 2 cs
  | '+' :: cs => decimal? ['+'] cs
  | '-' :: cs => decimal? ['-'] cs
  | cs => decimal? [] cs

/-- The number that exactly `width` decimal digits stand for, within bounds. -/
def field? (width least most : Nat) (cs : List Char) : Option (Nat × List Char) :=
  (Decimal.natural? (cs.take width)).bind fun n =>
    if (cs.take width).length = width && decide (least ≤ n) && decide (n ≤ most) then some (n, cs.drop width) else none

def after? (c : Char) : List Char → Option (List Char)
  | d :: cs => if c = d then some cs else none
  | [] => none

def daysIn (year month : Nat) : Nat :=
  if month = 2 then (if year % 4 = 0 && (year % 100 ≠ 0 || year % 400 = 0) then 29 else 28)
  else if month = 4 || month = 6 || month = 9 || month = 11 then 30
  else 31

/-- The text after the fraction of a second, if there is one. -/
def afterFraction : List Char → List Char
  | '.' :: c :: cs => if Decimal.isDigit c then cs.dropWhile Decimal.isDigit else '.' :: c :: cs
  | cs => cs

/-- The text after a time of the day. -/
def time? (cs : List Char) : Option (List Char) := do
  let (_, cs) ← field? 2 0 23 cs
  let (_, cs) ← field? 2 0 59 (← after? ':' cs)
  -- a leap second
  let (_, cs) ← field? 2 0 60 (← after? ':' cs)
  some (afterFraction cs)

/-- The text after the offset of a time, if it has one. -/
def offset? : List Char → Option (List Char)
  | 'Z' :: cs => some cs
  | 'z' :: cs => some cs
  | c :: cs =>
    if c = '+' || c = '-' then do
      let (_, cs) ← field? 2 0 23 cs
      let (_, cs) ← field? 2 0 59 (← after? ':' cs)
      some cs
    else some (c :: cs)
  | [] => some []

def startsTime (cs : List Char) : Bool := (field? 2 0 23 cs).any fun (_, cs) => (after? ':' cs).isSome

/-- The text after a date, and the time that may follow it after a `T` or a blank. -/
def date? (cs : List Char) : Option (List Char) := do
  let (year, cs) ← field? 4 0 9999 cs
  let (month, cs) ← field? 2 1 12 (← after? '-' cs)
  let (day, cs) ← field? 2 1 31 (← after? '-' cs)
  if daysIn year month < day then none
  else
    match cs with
    | c :: rest =>
      if (c = 'T' || c = 't' || c = ' ') && startsTime rest then (time? rest).bind offset? else some cs
    | [] => some []

def startsDate (cs : List Char) : Bool := (field? 4 0 9999 cs).any fun (_, cs) => (after? '-' cs).isSome

/-- **A number, a date or a time.** -/
def numeral? (cs : List Char) : Option (Toml × List Char) :=
  if startsDate cs then (date? cs).map (.moment, ·)
  else if startsTime cs then (time? cs).map (.moment, ·)
  else number? cs

end Remedy.Toml
