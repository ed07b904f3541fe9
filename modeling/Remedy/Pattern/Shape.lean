import Remedy.Pattern.Basic
/-!
# Pattern.Shape — patterns in their simplest form

Patterns are put together by functions that keep them simple: sequences and alternatives are lists bent to the right
without empty parts, neighbouring literals are one literal, alternatives of single characters or of classes are one
class, what all alternatives start with comes before them, and a repetition that adds nothing is left out.
-/
namespace Remedy.Pattern

open Text (Ranges)

/-- The pattern matches the empty text only. -/
def isWeightless : Pattern → Bool
  | .empty | .look _ => true
  | .literal text => text.isEmpty
  | .set _ => false
  | .group _ p | .repeated p _ _ _ => p.isWeightless
  | .seq p q | .alt p q => p.isWeightless && q.isWeightless

/-- The fewest characters of a match; none if a part of the pattern cannot match. -/
def shortest? : Pattern → Option Nat
  | .empty | .look _ => some 0
  | .literal text => some text.length
  | .set chars => if chars.isEmpty then none else some 1
  | .group _ p => p.shortest?
  | .repeated p least _ _ => p.shortest?.map (· * least)
  | .seq p q => p.shortest?.bind fun m => q.shortest?.map (m + ·)
  | .alt p q => p.shortest?.bind fun m => q.shortest?.map (min m ·)

/-- Every match starts at the start of the text. -/
def startsText : Pattern → Bool
  | .look condition => condition == .textStart
  | .empty | .literal _ | .set _ => false
  | .group _ p => p.startsText
  | .repeated p least _ _ => 0 < least && p.startsText
  | .seq p q => p.startsText || (p.isWeightless && q.startsText)
  | .alt p q => p.startsText && q.startsText

/-- Every match ends at the end of the text. -/
def endsText : Pattern → Bool
  | .look condition => condition == .textEnd
  | .empty | .literal _ | .set _ => false
  | .group _ p => p.endsText
  | .repeated p least _ _ => 0 < least && p.endsText
  | .seq p q => q.endsText || (q.isWeightless && p.endsText)
  | .alt p q => p.endsText && q.endsText

def parts : Pattern → List Pattern
  | .empty => []
  | .seq p q => p :: q.parts
  | p => [p]

def branches : Pattern → List Pattern
  | .alt p q => p :: q.branches
  | p => [p]

def size : Pattern → Nat
  | .empty | .literal _ | .set _ | .look _ => 1
  | .group _ p | .repeated p _ _ _ => p.size + 1
  | .seq p q | .alt p q => p.size + q.size + 1

/-- The characters of a class: a class of one character is a literal. -/
def ofSet (chars : Ranges) : Pattern :=
  match chars.toList with
  | [(first, last)] => if first = last then .literal [Char.ofNat first] else .set chars
  | _ => .set chars

/-- The parts of a sequence with neighbouring literals put together. -/
def joinLiterals : List Pattern → List Pattern
  | [] => []
  | p :: rest =>
    match p, joinLiterals rest with
    | .literal text, .literal more :: rest => .literal (text ++ more) :: rest
    | p, rest => p :: rest

/-- Parts bent to the right by a sequence of two. -/
def bent (join : Pattern → Pattern → Pattern) (none : Pattern) : List Pattern → Pattern
  | [] => none
  | [p] => p
  | p :: rest => join p (bent join none rest)

/-- **One pattern after the other.** -/
def sequence (items : List Pattern) : Pattern := bent .seq .empty (joinLiterals (items.flatMap parts))

def singleCharacters? (ps : List Pattern) : Option (List Nat) :=
  ps.mapM fun p => match p with
    | .literal [c] => some c.toNat
    | _ => none

def sets? (ps : List Pattern) : Option (List Ranges) :=
  ps.mapM fun p => match p with
    | .set chars => some chars
    | _ => none

/-- What two lists of parts start with in common. -/
def commonStart : List Pattern → List Pattern → List Pattern
  | p :: ps, q :: qs => if p == q then p :: commonStart ps qs else []
  | _, _ => []

/-- What sequences of more than one part start with in common. -/
def sharedStart : List (List Pattern) → List Pattern
  | [] => []
  | first :: rest =>
    if (first :: rest).all (1 < ·.length) then rest.foldl commonStart first else []

/-- The alternatives of some branches, after at most `fuel` common starts have been put before them. -/
def choiceWithin (fuel : Nat) (items : List Pattern) : Pattern :=
  let items := items.flatMap branches
  match fuel, items with
  | _, [] => .set ∅
  | _, [p] => p
  | 0, _ => bent .alt (.set ∅) items
  | fuel + 1, _ =>
    match singleCharacters? items, sets? items with
    | some points, _ => ofSet (Ranges.ofCodePoints points)
    | _, some sets => ofSet (Ranges.ofList (sets.flatMap Ranges.toList))
    | none, none =>
      let start := sharedStart (items.map parts)
      if start.isEmpty then bent .alt (.set ∅) items
      else
        let rests := items.map fun p => sequence (p.parts.drop start.length)
        sequence (start ++ [choiceWithin fuel rests])

/-- **One of some patterns.** -/
def choice (items : List Pattern) : Pattern :=
  choiceWithin (items.foldl (fun n p => n + p.size) 1) items

/-- **A pattern several times over**: at least `least` and at most `most` times, as often as it can if `greedy`. -/
def times (p : Pattern) (least : Nat) (most : Option Nat) (greedy : Bool) : Pattern :=
  let (least, most) := if p.isWeightless then (min least 1, some (min (most.getD 1) 1)) else (least, most)
  if least = 0 && most == some 0 then .empty
  else if least = 1 && most == some 1 then p
  else .repeated p least most greedy

end Remedy.Pattern
