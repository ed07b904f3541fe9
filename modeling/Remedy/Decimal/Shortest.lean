/-!
# Decimal.Shortest — the fewest digits that read back

A finite double other than zero is the number `m · 2 ^ q`.  Every real number of the interval halfway to its two
neighbours is read back as it, the ends of the interval only if `m` is even.  `shortest` looks through the decimal
grids with 1, 2, … 17 digits for a point of that interval: the first grid that has one wins, of two points the nearer,
and an exact tie is left to the caller.
-/
namespace Remedy.Decimal

/-- What becomes of a value exactly between two decimals of the same length. -/
inductive Tie
  | up
  | even

/-- A positive decimal number `digits · 10 ^ exponent`; `digits` does not end in zero. -/
structure Digits where
  digits : Nat
  exponent : Int

/-- The parts of a positive finite double: it is `significand · 2 ^ exponent`. -/
structure Binary where
  significand : Nat
  exponent : Int

/-- The significand and exponent of the bits of a finite double, its sign left out. -/
def Binary.ofBits (bits : Nat) : Binary :=
  let fraction : Nat := bits % 0x10000000000000
  let biased : Nat := bits / 0x10000000000000 % 0x800
  if biased = 0 then ⟨fraction, -1074⟩ else ⟨fraction + 0x10000000000000, (biased : Int) - 1075⟩

/-- The ends of the interval that is read back as the number, in quarters of its last binary place: the lower
neighbour of a power of two is half as far away. -/
def Binary.lower (b : Binary) : Nat :=
  4 * b.significand - (if b.significand = 0x10000000000000 && decide (-1074 < b.exponent) then 1 else 2)

def Binary.upper (b : Binary) : Nat := 4 * b.significand + 2

/-- A number of quarters `x` of the last binary place and a decimal `c · 10 ^ p`, brought to one scale. -/
def Binary.scales (b : Binary) (p : Int) : Nat × Nat :=
  let q := b.exponent - 2
  (Nat.pow 10 (-p).toNat * Nat.pow 2 q.toNat, Nat.pow 10 p.toNat * Nat.pow 2 (-q).toNat)

/-- The decimal `c · 10 ^ p` is read back as the number. -/
def Binary.covers (b : Binary) (p : Int) (c : Nat) : Bool :=
  let (binary, decimal) := b.scales p
  if b.significand % 2 = 0 then
    decide (b.lower * binary ≤ c * decimal) && decide (c * decimal ≤ b.upper * binary)
  else
    decide (b.lower * binary < c * decimal) && decide (c * decimal < b.upper * binary)

/-- Of the two neighbours of the number on the grid `10 ^ p`, the one that is read back as it; if both are, the
nearer. -/
def Binary.onGrid? (b : Binary) (tie : Tie) (p : Int) : Option Nat :=
  let (binary, decimal) := b.scales p
  let value := 4 * b.significand * binary
  let below := value / decimal
  match b.covers p below, b.covers p (below + 1) with
  | true, false => some below
  | false, true => some (below + 1)
  | false, false => none
  | true, true =>
    let distance := 2 * (value % decimal)
    if distance < decimal then some below
    else if decimal < distance then some (below + 1)
    else match tie with
      | .up => some (below + 1)
      | .even => some (if below % 2 = 0 then below else below + 1)

def Binary.leading (b : Binary) : Int :=
  let q := b.exponent
  -- the least positive double is far above 10⁻⁴⁰⁰, so the leading digit is among these
  let whole := b.significand * Nat.pow 10 400 * Nat.pow 2 q.toNat / Nat.pow 2 (-q).toNat
  (Nat.toDigits 10 whole).length - 401

def Digits.stripped : Nat → Digits → Digits
  | 0, d => d
  | fuel + 1, d => if d.digits % 10 = 0 then stripped fuel ⟨d.digits / 10, d.exponent + 1⟩ else d

def Binary.firstGrid (b : Binary) (tie : Tie) : Nat → Int → Digits
  | 0, p => ⟨(b.onGrid? tie p).getD 0, p⟩
  | more + 1, p =>
    match b.onGrid? tie p with
    | some c => ⟨c, p⟩
    -- seventeen digits always do, so a grid is found on the way
    | none => firstGrid b tie more (p - 1)

/-- **The shortest decimal of a positive finite double.** -/
def shortest (tie : Tie) (b : Binary) : Digits :=
  Digits.stripped 20 (b.firstGrid tie 17 b.leading)

def isNegative (x : Float) : Bool := decide (0x8000000000000000 ≤ x.toBits.toNat)

/-- What a double stands for, its sign apart. -/
inductive Kind
  | nan
  | infinite
  | zero
  | finite (b : Binary)

def kind (x : Float) : Kind :=
  let bits := x.toBits.toNat % 0x8000000000000000
  if bits = 0 then .zero
  else if bits = 0x7FF0000000000000 then .infinite
  else if 0x7FF0000000000000 < bits then .nan
  else .finite (Binary.ofBits bits)

def Digits.positional (d : Digits) : List Char :=
  let ds := Nat.toDigits 10 d.digits
  if 0 ≤ d.exponent then ds ++ List.replicate d.exponent.toNat '0'
  else
    let point := (ds.length : Int) + d.exponent
    if 0 < point then ds.take point.toNat ++ ['.'] ++ ds.drop point.toNat
    else ['0', '.'] ++ List.replicate (-point).toNat '0' ++ ds

/-- **The text of a floating point number**: the fewest digits that read back, never with an exponent, and without a
point when the number is whole. -/
def floatText (x : Float) : String :=
  let sign := if isNegative x then ['-'] else []
  match kind x with
  | .nan => "NaN"
  | .infinite => String.ofList (sign ++ ['i', 'n', 'f'])
  | .zero => String.ofList (sign ++ ['0'])
  | .finite b => String.ofList (sign ++ (shortest .up b).positional)

end Remedy.Decimal
