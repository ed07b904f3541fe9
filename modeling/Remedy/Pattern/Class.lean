import Remedy.Pattern.Shape
import Remedy.Text.CaseFold
import Remedy.Text.Numbers
import Remedy.Text.Property
/-!
# Pattern.Class — classes of characters and conditions under the flags of a pattern

Flags decide what a letter, a class or an anchor stands for: letters may stand for all characters that differ from
them in case only, the named classes for all scripts or for ASCII alone, and the line anchors for the ends of the
text or of its lines.  A class restricted to ASCII must not have characters beyond it.
-/
namespace Remedy.Pattern

open Text (Ranges)

/-- The flags in force at a place of a pattern. -/
structure Flags where
  caseless : Bool := false
  multiline : Bool := false
  dotAll : Bool := false
  crlf : Bool := false
  verbose : Bool := false
  unicode : Bool := true
  reluctant : Bool := false

/-- The flags with one more switched on or off; none if there is no such flag. -/
def Flags.set? (f : Flags) (name : Char) (on : Bool) : Option Flags :=
  if name = 'i' then some { f with caseless := on }
  else if name = 'm' then some { f with multiline := on }
  else if name = 's' then some { f with dotAll := on }
  else if name = 'R' then some { f with crlf := on }
  else if name = 'x' then some { f with verbose := on }
  else if name = 'u' then some { f with unicode := on }
  else if name = 'U' then some { f with reluctant := on }
  else none

def isAscii (c : Char) : Bool := c.toNat < 0x80

def Flags.allowed? (f : Flags) (set : Ranges) : Option Ranges :=
  if f.unicode || set.below 0x80 then some set else none

/-- The letters of ASCII in a class, in the other case. -/
def asciiPartners (set : Ranges) : Ranges :=
  Ranges.ofCodePoints ((List.range 26).flatMap fun k =>
    (if set.contains (Char.ofNat (0x41 + k)) then [0x61 + k] else [])
      ++ if set.contains (Char.ofNat (0x61 + k)) then [0x41 + k] else [])

/-- The class with all characters that differ from one of its own in case only. -/
def Flags.folded (f : Flags) (set : Ranges) : Ranges :=
  if !f.caseless then set
  else if f.unicode then set.foldCase
  else set ∪ asciiPartners set

def Flags.literal (f : Flags) (c : Char) : Pattern :=
  if !f.caseless then .literal [c]
  else if f.unicode then ofSet (Ranges.ofCodePoints (Text.caseVariants c))
  else ofSet (Ranges.ofCodePoints [c.toNat, c.toLower.toNat, c.toUpper.toNat])

/-- All other characters of a class.  Where two of its ranges meet over the surrogates, the characters on both sides
of the seam are in it. -/
def otherCharacters (set : Ranges) : Ranges :=
  let seam : Ranges :=
    if set.pairs.any (·.2 = 0xD7FF) && set.pairs.any (·.1 = 0xE000) then ⟨#[(0xD7FF, 0xE000)]⟩ else ∅
  set.complement ∪ seam

def complementIf (negated : Bool) (set : Ranges) : Ranges := if negated then otherCharacters set else set

/-- Any character, but not the end of a line. -/
def Flags.dot? (f : Flags) : Option Ranges :=
  if !f.unicode then none
  else if f.dotAll then some (∅ : Ranges).complement
  else if f.crlf then some (Ranges.complement ⟨#[(0x0A, 0x0A), (0x0D, 0x0D)]⟩)
  else some (Ranges.complement ⟨#[(0x0A, 0x0A)]⟩)

def asciiLetters : Ranges := ⟨#[(0x41, 0x5A), (0x61, 0x7A)]⟩

def asciiDigits : Ranges := ⟨#[(0x30, 0x39)]⟩

def asciiBlanks : Ranges := ⟨#[(0x09, 0x0D), (0x20, 0x20)]⟩

def asciiWord : Ranges := ⟨#[(0x30, 0x39), (0x41, 0x5A), (0x5F, 0x5F), (0x61, 0x7A)]⟩

/-- The classes named by one letter after a backslash; the capital letter names all other characters. -/
def Flags.short? (f : Flags) (name : Char) : Option Ranges :=
  let base : Option Ranges :=
    if name = 'd' || name = 'D' then some (if f.unicode then Text.decimalDigits else asciiDigits)
    else if name = 's' || name = 'S' then some (if f.unicode then Text.whiteSpace else asciiBlanks)
    else if name = 'w' || name = 'W' then some (if f.unicode then Text.wordCharacters else asciiWord)
    else none
  base.bind fun set => f.allowed? (complementIf name.isUpper set)

/-- The classes of ASCII characters that stand in brackets and colons. -/
def ascii? (name : List Char) : Option Ranges :=
  match String.ofList name with
  | "alnum" => some (asciiDigits ∪ asciiLetters)
  | "alpha" => some asciiLetters
  | "ascii" => some ⟨#[(0x00, 0x7F)]⟩
  | "blank" => some ⟨#[(0x09, 0x09), (0x20, 0x20)]⟩
  | "cntrl" => some ⟨#[(0x00, 0x1F), (0x7F, 0x7F)]⟩
  | "digit" => some asciiDigits
  | "graph" => some ⟨#[(0x21, 0x7E)]⟩
  | "lower" => some ⟨#[(0x61, 0x7A)]⟩
  | "print" => some ⟨#[(0x20, 0x7E)]⟩
  | "punct" => some ⟨#[(0x21, 0x2F), (0x3A, 0x40), (0x5B, 0x60), (0x7B, 0x7E)]⟩
  | "space" => some asciiBlanks
  | "upper" => some ⟨#[(0x41, 0x5A)]⟩
  | "word" => some asciiWord
  | "xdigit" => some ⟨#[(0x30, 0x39), (0x41, 0x46), (0x61, 0x66)]⟩
  | _ => none

/-- The start of the text, or of a line of it. -/
def Flags.lineStart (f : Flags) : Look := if f.multiline then .lineStart f.crlf else .textStart

def Flags.lineEnd (f : Flags) : Look := if f.multiline then .lineEnd f.crlf else .textEnd

/-- The boundaries that are named in braces; the half ones look at one side only. -/
def Flags.namedBoundary? (f : Flags) (name : List Char) : Option Look :=
  match String.ofList name with
  | "start" => some (.wordStart f.unicode)
  | "end" => some (.wordEnd f.unicode)
  | "start-half" => some (.noWordBefore f.unicode)
  | "end-half" => some (.noWordAfter f.unicode)
  | _ => none

end Remedy.Pattern
