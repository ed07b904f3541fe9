/-!
# Hex — characters by their code points

A code point is written in hexadecimal digits, in either case.
-/
namespace Remedy.Text

def hexValue? (c : Char) : Option Nat :=
  if '0' ≤ c && c ≤ '9' then some (c.toNat - 48)
  else if 'a' ≤ c && c ≤ 'f' then some (c.toNat - 87)
  else if 'A' ≤ c && c ≤ 'F' then some (c.toNat - 55)
  else none

def isHex (c : Char) : Bool := (hexValue? c).isSome

def ofHex (digits : List Char) : Nat := digits.foldl (fun n c => n * 16 + (hexValue? c).getD 0) 0

/-- The number that exactly `width` hexadecimal digits at the start of a text stand for. -/
def hexNumber? (width : Nat) (cs : List Char) : Option (Nat × List Char) :=
  let digits := cs.take width
  if digits.length = width && digits.all isHex then some (ofHex digits, cs.drop width) else none

def charOf? (n : Nat) : Option Char := if n.isValidChar then some (Char.ofNat n) else none

end Remedy.Text
