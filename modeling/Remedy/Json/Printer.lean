import Remedy.Decimal.Shortest
import Remedy.Json.Basic
/-!
# Json.Printer — documents without blanks

Numbers with a fraction are written with the fewest digits that read back: positionally when the point falls within
sixteen places on the left or five on the right, otherwise with an exponent.
-/
namespace Remedy.Json

/-- The digits of `d`, the point after `point` of them. -/
def withPoint (ds : List Char) (point : Nat) : List Char := ds.take point ++ ['.'] ++ ds.drop point

def decimalText (d : Decimal.Digits) : List Char :=
  let ds := Nat.toDigits 10 d.digits
  let point := (ds.length : Int) + d.exponent
  if 0 ≤ d.exponent && point ≤ 16 then ds ++ List.replicate d.exponent.toNat '0' ++ ['.', '0']
  else if 0 < point && point ≤ 16 then withPoint ds point.toNat
  else if -5 < point && point ≤ 0 then ['0', '.'] ++ List.replicate (-point).toNat '0' ++ ds
  else
    let exponent := (toString (point - 1)).toList
    (if ds.length = 1 then ds else withPoint ds 1) ++ ['e'] ++ exponent

/-- A floating point number of a document; what is not finite has no spelling of its own. -/
def floatText (x : Float) : List Char :=
  let sign := if Decimal.isNegative x then ['-'] else []
  match Decimal.kind x with
  | .nan | .infinite => ['n', 'u', 'l', 'l']
  | .zero => sign ++ ['0', '.', '0']
  | .finite b => sign ++ decimalText (Decimal.shortest .even b)

def Number.text : Number → List Char
  | .natural n => (toString n.toNat).toList
  | .negative n => (toString n.toInt).toList
  | .float x => floatText x

def escapeChar (c : Char) : List Char :=
  if c = '"' then ['\\', '"']
  else if c = '\\' then ['\\', '\\']
  else if c.toNat = 8 then ['\\', 'b']
  else if c.toNat = 12 then ['\\', 'f']
  else if c = '\n' then ['\\', 'n']
  else if c = '\r' then ['\\', 'r']
  else if c = '\t' then ['\\', 't']
  else if c.toNat < 32 then
    ['\\', 'u', '0', '0', Nat.digitChar (c.toNat / 16), Nat.digitChar (c.toNat % 16)]
  else [c]

def stringText (s : String) : List Char := '"' :: s.toList.flatMap escapeChar ++ ['"']

mutual

def chars : Json → List Char
  | .null => ['n', 'u', 'l', 'l']
  | .bool true => ['t', 'r', 'u', 'e']
  | .bool false => ['f', 'a', 'l', 's', 'e']
  | .number n => n.text
  | .string s => stringText s
  | .array items => '[' :: itemChars items ++ [']']
  | .object members => '{' :: memberChars members ++ ['}']

def itemChars : List Json → List Char
  | [] => []
  | [j] => chars j
  | j :: rest => chars j ++ ',' :: itemChars rest

def memberChars : List (String × Json) → List Char
  | [] => []
  | [(k, j)] => stringText k ++ ':' :: chars j
  | (k, j) :: rest => stringText k ++ ':' :: chars j ++ ',' :: memberChars rest

end

/-- **The text of a document**, without blanks. -/
def render (j : Json) : String := String.ofList (chars j)

end Remedy.Json
