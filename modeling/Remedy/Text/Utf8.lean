import Remedy.Text.Ranges
/-!
# Utf8 — characters as bytes

A character takes one to four bytes.  The characters of a range take the byte sequences that lead through one of a few
lists of byte ranges, one range for each byte.
-/
namespace Remedy.Text

def utf8Bytes (n : Nat) : List Nat :=
  if n < 0x80 then [n]
  else if n < 0x800 then [0xC0 + n / 0x40, 0x80 + n % 0x40]
  else if n < 0x10000 then [0xE0 + n / 0x1000, 0x80 + n / 0x40 % 0x40, 0x80 + n % 0x40]
  else [0xF0 + n / 0x40000, 0x80 + n / 0x1000 % 0x40, 0x80 + n / 0x40 % 0x40, 0x80 + n % 0x40]

/-- The first code point from `first` on that needs a list of its own: after the surrogates, where the number of bytes
changes, or where a block of last bytes is not covered as a whole. -/
def utf8Cut? (first last : Nat) : Option Nat :=
  if first < 0xE000 && 0xD7FF < last then some 0xE000
  else
    ([0x80, 0x800, 0x10000].find? fun n => first < n && n ≤ last).orElse fun _ =>
      [0x40, 0x1000, 0x40000].findSome? fun block =>
        if last < 0x80 || first / block = last / block then none
        else if first % block ≠ 0 then some ((first / block + 1) * block)
        else if last % block ≠ block - 1 then some (last / block * block)
        else none

/-- The lists of byte ranges of the code points from `first` to `last`, after at most `fuel` cuts in a row. -/
def utf8Lists (fuel first last : Nat) : List (List (Nat × Nat)) :=
  match fuel with
  | 0 => []
  | fuel + 1 =>
    if last < first then []
    else match utf8Cut? first last with
      | some n => utf8Lists fuel first (Ranges.previous n) ++ utf8Lists fuel n last
      | none => [(utf8Bytes first).zip (utf8Bytes last)]

/-- **The lists of byte ranges that the characters of a class lead through**, in increasing order. -/
def Ranges.utf8 (r : Ranges) : List (List (Nat × Nat)) :=
  r.toList.flatMap fun (first, last) => utf8Lists 32 first last

end Remedy.Text
