/-!
# Ranges — classes of characters as sorted code point ranges

A class of characters that the Unicode standard fixes by enumeration is kept as its ranges of code points, first and
last included, in increasing order and apart from each other.  Membership is a binary search, so its cost is the
logarithm of the number of ranges; every class that the rule language reads on each character answers ASCII from a
short test of its own and asks the ranges only beyond it.
-/
namespace Remedy.Text

/-- A class of characters: the first and last code point of each of its ranges, in increasing order. -/
structure Ranges where
  pairs : Array (Nat × Nat)
  deriving BEq

namespace Ranges

/-- Looks for `n` among the ranges with an index in `[lo, hi)`, halving that interval at most `fuel` times. -/
def search (r : Ranges) (n : Nat) : Nat → Nat → Nat → Bool
  | 0, _, _ => false
  | fuel + 1, lo, hi =>
    if lo < hi then
      let mid := (lo + hi) / 2
      match r.pairs[mid]? with
      | none => false
      | some (first, last) =>
        if n < first then search r n fuel lo mid
        else if last < n then search r n fuel (mid + 1) hi
        else true
    else false

/-- **The class has the character.** -/
def contains (r : Ranges) (c : Char) : Bool :=
  search r c.toNat (r.pairs.size + 1) 0 r.pairs.size

end Ranges

/-- A rule of a character map: every `step`-th code point from `first` to `last` moves by `shift`. -/
structure Run where
  first : Nat
  last : Nat
  step : Nat
  shift : Int

/-- A map of characters: runs in increasing order, apart from each other. -/
structure CharMap where
  runs : Array Run

namespace CharMap

/-- Looks for the run that moves `n` among those with an index in `[lo, hi)`. -/
def search (m : CharMap) (n : Nat) : Nat → Nat → Nat → Option Run
  | 0, _, _ => none
  | fuel + 1, lo, hi =>
    if lo < hi then
      let mid := (lo + hi) / 2
      match m.runs[mid]? with
      | none => none
      | some run =>
        if n < run.first then search m n fuel lo mid
        else if run.last < n then search m n fuel (mid + 1) hi
        else if (n - run.first) % run.step = 0 then some run else none
    else none

def moves (m : CharMap) (c : Char) : Bool :=
  (search m c.toNat (m.runs.size + 1) 0 m.runs.size).isSome

/-- The image of a character; a character that no run names stays as it is. -/
def apply (m : CharMap) (c : Char) : Char :=
  match search m c.toNat (m.runs.size + 1) 0 m.runs.size with
  | some run => Char.ofNat (Int.toNat (c.toNat + run.shift))
  | none => c

end CharMap

end Remedy.Text

/-! ## Union, intersection, difference and complement of classes of characters

The operations work on the ranges in one pass over both operands.  Surrogates are no characters, so the code points
on both sides of them are neighbours: the character after `D7FF` is `E000`.
-/

namespace Remedy.Text.Ranges

def lastCodePoint : Nat := 0x10FFFF

def next (n : Nat) : Nat := if n = 0xD7FF then 0xE000 else n + 1

/-- The code point of the character before; `0` has none and stands for itself. -/
def previous (n : Nat) : Nat := if n = 0xE000 then 0xD7FF else n - 1

def toList (r : Ranges) : List (Nat × Nat) := r.pairs.toList

def isEmpty (r : Ranges) : Bool := r.pairs.isEmpty

/-- All characters of the class are among the first `n`. -/
def below (r : Ranges) (n : Nat) : Bool := r.pairs.all (·.2 < n)

/-- The range from `first` to `last` and those after it, which start no earlier, those that touch put together. -/
def joinFrom (first last : Nat) : List (Nat × Nat) → List (Nat × Nat)
  | [] => [(first, last)]
  | (a, b) :: rest =>
    if a ≤ last + 1 then joinFrom first (max last b) rest else (first, last) :: joinFrom a b rest

/-- Ranges in the order of their first code points, those that touch put together. -/
def joined : List (Nat × Nat) → List (Nat × Nat)
  | [] => []
  | (a, b) :: rest => joinFrom a b rest

/-- Of two ranges, the first starts no later. -/
def startsFirst (a b : Nat × Nat) : Bool := a.1 ≤ b.1

def ofList (pairs : List (Nat × Nat)) : Ranges := ⟨(joined (pairs.mergeSort startsFirst)).toArray⟩

def ofCodePoints (points : List Nat) : Ranges := ofList (points.map fun n => (n, n))

def union (r s : Ranges) : Ranges := ⟨(joined (r.toList.merge s.toList startsFirst)).toArray⟩

/-- What two lists of ranges have in common. -/
def common : List (Nat × Nat) → List (Nat × Nat) → List (Nat × Nat)
  | (a, b) :: r, (c, d) :: s =>
    let rest := if b < d then common r ((c, d) :: s) else common ((a, b) :: r) s
    if max a c ≤ min b d then (max a c, min b d) :: rest else rest
  | _, _ => []
termination_by r s => r.length + s.length

def inter (r s : Ranges) : Ranges := ⟨(common r.toList s.toList).toArray⟩

/-- What lies between the ranges from `first` on. -/
def gapsFrom (first : Nat) : List (Nat × Nat) → List (Nat × Nat)
  | [] => if first ≤ lastCodePoint then [(first, lastCodePoint)] else []
  | (a, b) :: rest => if first < a then (first, previous a) :: gapsFrom (next b) rest else gapsFrom (next b) rest

/-- **All other characters.** -/
def complement (r : Ranges) : Ranges := ⟨(gapsFrom 0 r.toList).toArray⟩

def diff (r s : Ranges) : Ranges := inter r s.complement

/-- Every other code point of the ranges: the even ones for the remainder 0, the odd ones for 1. -/
def everyOther (r : Ranges) (remainder : Nat) : Ranges :=
  ofCodePoints (r.toList.flatMap fun (a, b) => (List.range' a (b + 1 - a)).filter (· % 2 = remainder))

instance : EmptyCollection Ranges := ⟨⟨#[]⟩⟩
instance : Union Ranges := ⟨union⟩
instance : Inter Ranges := ⟨inter⟩
instance : SDiff Ranges := ⟨diff⟩

end Remedy.Text.Ranges
