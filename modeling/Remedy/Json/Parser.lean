import Remedy.Decimal.Read
import Remedy.Json.Basic
import Remedy.Text.Hex
/-!
# Json.Parser — documents from their text

A text is a document when it follows the grammar with nothing but blanks around it, nests no deeper than 127 lists
and objects, and has no number beyond the range of a double.  A number with a fraction or an exponent is formed from
its first nineteen or twenty digits (those that fit 64 bits) and one multiplication or division by a power of ten, so
its last place may differ from the nearest double.
-/
namespace Remedy.Json

def isBlank (c : Char) : Bool := c == ' ' || c == '\n' || c == '\t' || c == '\r'

def skipBlank (cs : List Char) : List Char := cs.dropWhile isBlank

/-- Scales `x` by a power of ten, in at most `fuel` steps; none when the result is beyond the range of a double. -/
def scale : Nat → Float → Int → Option Float
  | 0, x, _ => some x
  | fuel + 1, x, e =>
    if e.natAbs ≤ 308 then
      let power := Float.ofScientific 1 false e.natAbs
      if 0 ≤ e then
        let y := x * power
        if y.isInf then none else some y
      else some (x / power)
    else if x == 0.0 then some x
    else if 0 ≤ e then none
    else scale fuel (x / Float.ofScientific 1 false 308) (e + 308)

def scaled (positive : Bool) (digits : Nat) (exponent : Int) : Option Float :=
  (scale 4 (Float.ofNat digits) exponent).map fun x => if positive then x else -x

/-- Takes the digits that still fit 64 bits onto `acc`; gives the rest and how many were taken. -/
def fitting (acc taken : Nat) : List Char → Nat × Nat × List Char
  | [] => (acc, taken, [])
  | c :: cs =>
    if Decimal.isDigit c then
      let acc' := acc * 10 + Decimal.digitValue c
      if acc' < 0x10000000000000000 then fitting acc' (taken + 1) cs else (acc, taken, c :: cs)
    else (acc, taken, c :: cs)

def exponentPart (positive : Bool) (digits : Nat) (start : Int) (cs : List Char) : Option (Float × List Char) :=
  let (up, cs) := match cs with
    | '+' :: rest => (true, rest)
    | '-' :: rest => (false, rest)
    | _ => (true, cs)
  let ds := cs.takeWhile Decimal.isDigit
  let rest := cs.dropWhile Decimal.isDigit
  if ds.isEmpty then none
  else
    let e := Decimal.ofDigits 0 ds
    if 0x80000000 ≤ e then
      if digits ≠ 0 && up then none else some (if positive then 0.0 else -0.0, rest)
    else (scaled positive digits (if up then start + e else start - e)).map (·, rest)

def exponentOrEnd (positive : Bool) (digits : Nat) (start : Int) : List Char → Option (Float × List Char)
  | 'e' :: cs => exponentPart positive digits start cs
  | 'E' :: cs => exponentPart positive digits start cs
  | cs => (scaled positive digits start).map (·, cs)

def fractionPart (positive : Bool) (digits : Nat) (start : Int) (cs : List Char) : Option (Float × List Char) :=
  let (acc, taken, rest) := fitting digits 0 cs
  let exponent := start - taken
  match rest with
  | c :: _ =>
    if Decimal.isDigit c then exponentOrEnd positive acc exponent (rest.dropWhile Decimal.isDigit)
    else if taken = 0 then none
    else exponentOrEnd positive acc exponent rest
  | [] => if taken = 0 then none else exponentOrEnd positive acc exponent rest

/-- A number from its point or exponent on; without either it is whole. -/
def numberEnd (positive : Bool) (digits : Nat) : List Char → Option (Number × List Char)
  | '.' :: cs => (fractionPart positive digits 0 cs).map fun (x, r) => (.float x, r)
  | 'e' :: cs => (exponentPart positive digits 0 cs).map fun (x, r) => (.float x, r)
  | 'E' :: cs => (exponentPart positive digits 0 cs).map fun (x, r) => (.float x, r)
  | cs =>
    if positive then some (.natural digits.toUInt64, cs)
    else if digits = 0 || 0x8000000000000000 < digits then some (.float (-Float.ofNat digits), cs)
    else some (.negative (Int64.ofInt (-digits)), cs)

def magnitude (positive : Bool) : List Char → Option (Number × List Char)
  | [] => none
  | '0' :: cs =>
    match cs with
    | c :: _ => if Decimal.isDigit c then none else numberEnd positive 0 cs
    | [] => numberEnd positive 0 cs
  | c :: cs =>
    if !Decimal.isDigit c then none
    else
      let (acc, _, rest) := fitting 0 0 (c :: cs)
      match rest with
      | d :: _ =>
        if Decimal.isDigit d then
          -- the digits that do not fit any more only count as so many places
          let dropped := (rest.takeWhile Decimal.isDigit).length
          let more := rest.dropWhile Decimal.isDigit
          (match more with
            | '.' :: ds => fractionPart positive acc dropped ds
            | _ => exponentOrEnd positive acc dropped more).map fun (x, r) => (.float x, r)
        else numberEnd positive acc rest
      | [] => numberEnd positive acc rest

/-- The character of a `\u` escape; two of them name a character beyond the first plane. -/
def escapedCodePoint? (cs : List Char) : Option (Char × List Char) :=
  match Text.hexNumber? 4 cs with
  | none => none
  | some (n, rest) =>
    -- the first half of a pair; a second half alone is refused below
    if 0xD800 ≤ n && n < 0xDC00 then
      match rest with
      | '\\' :: 'u' :: more =>
        match Text.hexNumber? 4 more with
        | some (m, rest) =>
          if 0xDC00 ≤ m && m < 0xE000 then
            some (Char.ofNat ((n - 0xD800) * 0x400 + (m - 0xDC00) + 0x10000), rest)
          else none
        | none => none
      | _ => none
    else if 0xDC00 ≤ n && n < 0xE000 then none
    else some (Char.ofNat n, rest)

/-- A text after its opening quote; `acc` holds what is read of it, the last character first. -/
def stringRest : Nat → List Char → List Char → Option (String × List Char)
  | 0, _, _ => none
  | _ + 1, _, [] => none
  | _ + 1, acc, '"' :: cs => some (String.ofList acc.reverse, cs)
  | fuel + 1, acc, '\\' :: cs =>
    match cs with
    | '"' :: r => stringRest fuel ('"' :: acc) r
    | '\\' :: r => stringRest fuel ('\\' :: acc) r
    | '/' :: r => stringRest fuel ('/' :: acc) r
    | 'b' :: r => stringRest fuel ('\x08' :: acc) r
    | 'f' :: r => stringRest fuel ('\x0c' :: acc) r
    | 'n' :: r => stringRest fuel ('\n' :: acc) r
    | 'r' :: r => stringRest fuel ('\r' :: acc) r
    | 't' :: r => stringRest fuel ('\t' :: acc) r
    | 'u' :: r =>
      match escapedCodePoint? r with
      | some (c, r) => stringRest fuel (c :: acc) r
      | none => none
    | _ => none
  | fuel + 1, acc, c :: cs => if c.toNat < 32 then none else stringRest fuel (c :: acc) cs

def string? : List Char → Option (String × List Char)
  | '"' :: cs => stringRest (cs.length + 1) [] cs
  | _ => none

def word? : List Char → List Char → Option (List Char)
  | [], cs => some cs
  | w :: ws, c :: cs => if w = c then word? ws cs else none
  | _ :: _, [] => none

mutual

/-- A document at the start of the text, with `depth` levels of nesting left. -/
def value? : Nat → Nat → List Char → Option (Json × List Char)
  | 0, _, _ => none
  | fuel + 1, depth, cs =>
    match skipBlank cs with
    | [] => none
    | 'n' :: r => (word? ['u', 'l', 'l'] r).map (Json.null, ·)
    | 't' :: r => (word? ['r', 'u', 'e'] r).map (Json.bool true, ·)
    | 'f' :: r => (word? ['a', 'l', 's', 'e'] r).map (Json.bool false, ·)
    | '-' :: r => (magnitude false r).map fun (n, r) => (Json.number n, r)
    | '"' :: r => (stringRest (r.length + 1) [] r).map fun (s, r) => (Json.string s, r)
    | '[' :: r =>
      if depth ≤ 1 then none
      else match skipBlank r with
        | ']' :: r => some (.array [], r)
        | r => items? fuel (depth - 1) [] r
    | '{' :: r =>
      if depth ≤ 1 then none
      else match skipBlank r with
        | '}' :: r => some (.object [], r)
        | r => members? fuel (depth - 1) [] r
    | r => (magnitude true r).map fun (n, r) => (Json.number n, r)

/-- The items of a list up to its bracket; `acc` holds those read, the last first. -/
def items? : Nat → Nat → List Json → List Char → Option (Json × List Char)
  | 0, _, _, _ => none
  | fuel + 1, depth, acc, cs =>
    match value? fuel depth cs with
    | none => none
    | some (j, r) =>
      match skipBlank r with
      | ',' :: r => items? fuel depth (j :: acc) r
      | ']' :: r => some (.array (j :: acc).reverse, r)
      | _ => none

/-- The members of an object up to its bracket; `acc` holds those read, the last first. -/
def members? : Nat → Nat → List (String × Json) → List Char → Option (Json × List Char)
  | 0, _, _, _ => none
  | fuel + 1, depth, acc, cs =>
    match string? (skipBlank cs) with
    | none => none
    | some (key, r) =>
      match skipBlank r with
      | ':' :: r =>
        match value? fuel depth r with
        | none => none
        | some (j, r) =>
          match skipBlank r with
          | ',' :: r => members? fuel depth ((key, j) :: acc) r
          | '}' :: r => some (.object ((key, j) :: acc).reverse, r)
          | _ => none
      | _ => none

end

/-- **The document that a text spells**, if it spells one, with all members as they are written. -/
def read? (text : String) : Option Json :=
  match value? (2 * text.length + 2) 128 text.toList with
  | some (j, rest) => if (skipBlank rest).isEmpty then some j else none
  | none => none

/-- **The document that a text spells**, in normal form. -/
def parse? (text : String) : Option Json := (read? text).map normal

end Remedy.Json
