import Remedy.Text.Alphabetic
import Remedy.Text.Ranges
/-!
# Pattern — regular expressions and where they match

A pattern is matched by following sets of positions: the positions of a text that a pattern leads to from a set of
positions.  A set of positions is a number whose bit `i` stands for position `i`, so the union of two sets and one
step forward are single operations.  Positions only grow, so a repetition has settled after at most one round per
position.  A text matches when the pattern leads from some position of it to another.
-/
namespace Remedy

open Text (Ranges)

/-- A condition on the characters before and after a position.  `crlf` tells that a carriage return ends lines too,
`unicode` that words are those of all scripts. -/
inductive Look
  | textStart
  | textEnd
  | lineStart (crlf : Bool)
  | lineEnd (crlf : Bool)
  | boundary (unicode : Bool)
  | noBoundary (unicode : Bool)
  | wordStart (unicode : Bool)
  | wordEnd (unicode : Bool)
  | noWordBefore (unicode : Bool)
  | noWordAfter (unicode : Bool)
  deriving DecidableEq

/-- **A pattern.**  Groups are numbered in the order in which they open. -/
inductive Pattern
  | empty
  | literal (text : List Char)
  | set (chars : Ranges)
  | look (condition : Look)
  | group (number : Nat) (p : Pattern)
  | repeated (p : Pattern) (least : Nat) (most : Option Nat) (greedy : Bool)
  | seq (p q : Pattern)
  | alt (p q : Pattern)
  deriving BEq

def Look.isWord (unicode : Bool) (c : Char) : Bool :=
  if unicode then Text.isWord c else c.isAlphanum || c == '_'

/-- **The condition holds** between two characters; a character is missing at an end of the text. -/
def Look.holds (before after : Option Char) : Look → Bool
  | .textStart => before.isNone
  | .textEnd => after.isNone
  | .lineStart crlf => match before with
    | none => true
    | some c => c == '\n' || (crlf && c == '\r' && after != some '\n')
  | .lineEnd crlf => match after with
    | none => true
    | some c => if crlf then c == '\r' || (c == '\n' && before != some '\r') else c == '\n'
  | .boundary unicode => before.any (isWord unicode) != after.any (isWord unicode)
  | .noBoundary unicode => before.any (isWord unicode) == after.any (isWord unicode)
  | .wordStart unicode => !before.any (isWord unicode) && after.any (isWord unicode)
  | .wordEnd unicode => before.any (isWord unicode) && !after.any (isWord unicode)
  | .noWordBefore unicode => !before.any (isWord unicode)
  | .noWordAfter unicode => !after.any (isWord unicode)

namespace Pattern

/-- The positions up to `n`, as a set, at which `holds` is true. -/
def positions (holds : Nat → Bool) : Nat → Nat
  | 0 => if holds 0 then 1 else 0
  | n + 1 => positions holds n ||| if holds (n + 1) then 1 <<< (n + 1) else 0

def standsAt (text : Array Char) : List Char → Nat → Bool
  | [], _ => true
  | c :: cs, i => text[i]? == some c && standsAt text cs (i + 1)

/-- The set after `f` has been applied `k` times, or often enough for it to settle. -/
def rounds (f : Nat → Nat) : Nat → Nat → Nat
  | 0, s => s
  | k + 1, s => if f s = s then s else rounds f k (f s)

/-- The set with what `f` adds to it in at most `k` rounds. -/
def spread (f : Nat → Nat) : Nat → Nat → Nat
  | 0, s => s
  | k + 1, s => if s ||| f s = s then s else spread f k (s ||| f s)

/-- **A pattern laid over a text**: in place of what its parts ask of the characters, the positions at which they find
it, and how far they go on from there. -/
inductive Trace
  | advance (here width : Nat)
  | seq (p q : Trace)
  | alt (p q : Trace)
  | repeated (p : Trace) (least more : Nat)

/-- Goes on by `width` from the positions at which `holds` is true. -/
def traceAt (text : Array Char) (width : Nat) (holds : Nat → Bool) : Trace :=
  .advance (positions holds text.size) width

/-- **Lays a pattern over a text.** -/
def trace (text : Array Char) : Pattern → Trace
  | .empty => traceAt text 0 fun _ => true
  | .literal cs => traceAt text cs.length (standsAt text cs)
  | .set chars => traceAt text 1 fun i => text[i]?.any chars.contains
  | .look condition => traceAt text 0 fun i => condition.holds (if i = 0 then none else text[i - 1]?) text[i]?
  | .group _ p => trace text p
  | .seq p q => .seq (trace text p) (trace text q)
  | .alt p q => .alt (trace text p) (trace text q)
  | .repeated p least most _ =>
    .repeated (trace text p) least (match most with
      | some m => m - least
      | none => text.size + 1)

/-- **The positions that a pattern leads to** from the set `s`. -/
def Trace.ends : Trace → Nat → Nat
  | .advance here width, s => (s &&& here) <<< width
  | .seq p q, s => ends q (ends p s)
  | .alt p q, s => ends p s ||| ends q s
  | .repeated p least more, s => spread (ends p) more (rounds (ends p) least s)

/-- **The pattern matches somewhere in the text.** -/
def found (p : Pattern) (text : String) : Bool :=
  let cs := text.toList.toArray
  (p.trace cs).ends (Nat.pow 2 (cs.size + 1) - 1) != 0

end Pattern

end Remedy
