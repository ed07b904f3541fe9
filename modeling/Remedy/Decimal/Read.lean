/-!
# Decimal.Read — numbers read from their decimal digits

Whole numbers are read exactly and refused outside their range.  A number with a point or an exponent is read as the
double nearest to the decimal value, a tie going to the even significand.
-/
namespace Remedy.Decimal

def isDigit (c : Char) : Bool := '0' ≤ c && c ≤ '9'

def digitValue (c : Char) : Nat := c.toNat - '0'.toNat

/-- The number that starts with the digits of `acc` and goes on with the given ones. -/
def ofDigits (acc : Nat) : List Char → Nat
  | [] => acc
  | c :: cs => ofDigits (acc * 10 + digitValue c) cs

def natural? (cs : List Char) : Option Nat :=
  if !cs.isEmpty && cs.all isDigit then some (ofDigits 0 cs) else none

/-- **A whole number below 2⁶⁴**; a plus sign may stand before it. -/
def unsigned? (cs : List Char) : Option Nat :=
  let digits := match cs with
    | '+' :: rest => rest
    | _ => cs
  (natural? digits).filter (· < 0x10000000000000000)

/-- **A whole number of 64 bits with a sign**; a plus or minus sign may stand before the digits. -/
def signed? (cs : List Char) : Option Int64 :=
  let value : Option Int := match cs with
    | '-' :: rest => (natural? rest).map fun n => -(n : Int)
    | '+' :: rest => (natural? rest).map fun n => (n : Int)
    | _ => (natural? cs).map fun n => (n : Int)
  (value.filter fun n => -0x8000000000000000 ≤ n && n < 0x8000000000000000).map Int64.ofInt

/-- The double nearest to `digits · 10 ^ exponent`.  Magnitudes that no double has are settled before the powers of
ten are formed. -/
def nearest (digits : Nat) (exponent : Int) : Float :=
  let magnitude := exponent + (Nat.toDigits 10 digits).length
  if digits = 0 || magnitude < -400 then 0
  else if 400 < magnitude then Float.ofBits 0x7FF0000000000000
  else Float.ofScientific digits (decide (exponent < 0)) exponent.natAbs

/-- An exponent: `e` or `E`, a sign or none, and digits; the empty text is the exponent zero. -/
def exponent? : List Char → Option Int
  | [] => some 0
  | c :: rest =>
    if c = 'e' || c = 'E' then
      match rest with
      | '-' :: ds => (natural? ds).map fun n => -(n : Int)
      | '+' :: ds => (natural? ds).map fun n => (n : Int)
      | ds => (natural? ds).map fun n => (n : Int)
    else none

/-- A number without a sign: digits, then a point with or without digits after it, then an exponent; one of the two
runs of digits must be there. -/
def magnitude? (cs : List Char) : Option Float :=
  let whole := cs.takeWhile isDigit
  let rest := cs.dropWhile isDigit
  let (fraction, rest) := match rest with
    | '.' :: more => (more.takeWhile isDigit, more.dropWhile isDigit)
    | _ => ([], rest)
  if whole.isEmpty && fraction.isEmpty then none
  else (exponent? rest).map fun e =>
    nearest (ofDigits 0 (whole ++ fraction)) (e - fraction.length)

def special? (cs : List Char) : Option Float :=
  let word := String.ofList (cs.map Char.toLower)
  if word = "inf" || word = "infinity" then some (Float.ofBits 0x7FF0000000000000)
  else if word = "nan" then some (Float.ofBits 0x7FF8000000000000)
  else none

/-- **A floating point number**, with a sign or without. -/
def float? (cs : List Char) : Option Float :=
  let unsignedFloat? (cs : List Char) : Option Float := (magnitude? cs).orElse fun _ => special? cs
  match cs with
  | '-' :: rest => (unsignedFloat? rest).map fun x => -x
  | '+' :: rest => unsignedFloat? rest
  | _ => unsignedFloat? cs

end Remedy.Decimal
