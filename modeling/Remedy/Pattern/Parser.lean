import Remedy.Decimal.Read
import Remedy.Pattern.Class
import Remedy.Pattern.Room
import Remedy.Text.Hex
/-!
# Pattern.Parser — patterns from their text

The notation has literals, `.`, anchors, classes in brackets (nested, with intersection, difference and symmetric
difference), groups with or without a name, flags, alternatives and repetitions.  There is no look-around and no
back-reference.  A text that does not follow the notation is no pattern, nor is one that is nested too deep or whose
automata would take too much room.
-/
namespace Remedy.Pattern

open Text (Ranges)

/-- A part of a pattern, and how deep the parts in it are nested. -/
structure Nested (α : Type) where
  value : α
  depth : Nat := 0

/-- The greatest depth of some parts, and one more if they are several. -/
def depthOf (depths : List Nat) : Nat :=
  depths.foldl max 0 + if depths.length ≤ 1 then 0 else 1

/-- Patterns that are nested deeper than this are refused. -/
def greatestDepth : Nat := 250

/-- Skips blanks and comments; `comment` tells that a comment is open. -/
def skipVerbose (comment : Bool) : List Char → List Char
  | [] => []
  | c :: cs =>
    if comment then skipVerbose (c != '\n') cs
    else if Text.isBlank c then skipVerbose false cs
    else if c = '#' then skipVerbose true cs
    else c :: cs

/-- The text from its next significant character on: under the verbose flag, blanks and comments do not count. -/
def Flags.skip (f : Flags) (cs : List Char) : List Char := if f.verbose then skipVerbose false cs else cs

/-- The longest run of at most `n` significant characters of a class, and the rest. -/
def Flags.run (f : Flags) (p : Char → Bool) : Nat → List Char → List Char × List Char
  | 0, cs => ([], cs)
  | _ + 1, [] => ([], [])
  | n + 1, c :: cs =>
    if p c then
      let (found, rest) := f.run p n (f.skip cs)
      (c :: found, rest)
    else ([], c :: cs)

/-- What one item of a class or of a pattern stands for. -/
inductive Item
  | char (c : Char)
  | set (s : Ranges)
  | look (condition : Look)

def bound? (f : Flags) (cs : List Char) : Option (Nat × List Char) :=
  let cs := cs.dropWhile Text.isBlank
  let (digits, rest) := f.run Decimal.isDigit cs.length cs
  let rest := (f.run Text.isBlank rest.length rest).2
  ((Decimal.natural? digits).filter (· < 0x100000000)).map (·, rest)

/-- The numbers of rounds between braces, after the opening one: `n`, `n,` or `n,m`. -/
def bounds? (f : Flags) (cs : List Char) : Option (Nat × Option Nat × List Char) := do
  let (least, rest) ← bound? f (f.skip cs)
  let (most, rest) ← match rest with
    | ',' :: more =>
      match f.skip more with
      | '}' :: more => some (none, '}' :: more)
      | more => (bound? f more).map fun (m, rest) => (some m, rest)
    | _ => some (some least, rest)
  match rest with
  | '}' :: rest => if most.all (least ≤ ·) then some (least, most, f.skip rest) else none
  | _ => none

structure Repetition where
  least : Nat
  most : Option Nat
  greedy : Bool

/-- A repetition, with the mark after it that turns the preference for more rounds around. -/
def repetition (f : Flags) (least : Nat) (most : Option Nat) : List Char → Repetition × List Char
  | '?' :: cs => (⟨least, most, f.reluctant⟩, cs)
  | cs => (⟨least, most, !f.reluctant⟩, cs)

def repetition? (f : Flags) : List Char → Option (Option (Repetition × List Char))
  | '?' :: cs => some (some (repetition f 0 (some 1) cs))
  | '*' :: cs => some (some (repetition f 0 none cs))
  | '+' :: cs => some (some (repetition f 1 none cs))
  | '{' :: cs => some ((bounds? f cs).map fun (a, b, rest) => repetition f a b rest)
  | _ => none

/-- A character by its code point: `width` hexadecimal digits, or any number of them between braces.  Without the
Unicode flag two digits name a byte, and only the bytes of ASCII stand for characters. -/
def hex? (f : Flags) (width : Nat) (cs : List Char) : Option (Item × List Char) :=
  match f.skip cs with
  | '{' :: cs =>
    let cs := f.skip cs
    match f.run Text.isHex cs.length cs with
    | (digits, '}' :: rest) =>
      if digits.isEmpty then none else (Text.charOf? (Text.ofHex digits)).map (.char ·, f.skip rest)
    | _ => none
  | cs =>
    let (digits, rest) := f.run Text.isHex width cs
    let n := Text.ofHex digits
    if digits.length ≠ width || (!f.unicode && width = 2 && 0x80 ≤ n) then none
    else (Text.charOf? n).map (.char ·, rest)

/-- A property of the Unicode standard: one letter, or a name between braces. -/
def propertyItem? (f : Flags) (negated : Bool) (cs : List Char) : Option (Item × List Char) :=
  if !f.unicode then none
  else
    let named : Option (List Char × List Char) := match f.skip cs with
      | '{' :: cs =>
        let cs := f.skip cs
        match f.run (· != '}') cs.length cs with
        | (name, '}' :: rest) => some (name, rest)
        | _ => none
      | c :: cs => if c = '\\' then none else some ([c], cs)
      | [] => none
    named.bind fun (name, rest) =>
      (Text.property? name).map fun (other, chars) =>
        (.set (complementIf (negated != other) (f.folded chars)), rest)

/-- A boundary between words, plain or with a name in braces; braces that hold no name belong to what follows. -/
def boundary? (f : Flags) (cs : List Char) : Option (Item × List Char) :=
  let plain : Option (Item × List Char) := some (.look (.boundary f.unicode), cs)
  let isNameChar (c : Char) : Bool := c.isAlpha || c == '-'
  match cs with
  | '{' :: rest =>
    match f.skip rest with
    | [] => none
    | c :: more =>
      if isNameChar c then
        match f.run isNameChar (more.length + 1) (c :: more) with
        | (name, '}' :: rest) => (f.namedBoundary? name).map (.look ·, rest)
        | _ => none
      else plain
  | _ => plain

/-- The control characters that have a letter. -/
def control? (c : Char) : Option Char :=
  if c = 'a' then some '\x07'
  else if c = 'f' then some '\x0c'
  else if c = 't' then some '\t'
  else if c = 'n' then some '\n'
  else if c = 'r' then some '\r'
  else if c = 'v' then some '\x0b'
  else none

def escape? (f : Flags) : List Char → Option (Item × List Char)
  | [] => none
  | c :: cs =>
    if c = 'x' then hex? f 2 cs
    else if c = 'u' then hex? f 4 cs
    else if c = 'U' then hex? f 8 cs
    else if c = 'p' || c = 'P' then propertyItem? f (c == 'P') cs
    else if c = 'b' then boundary? f cs
    else if c = 'B' then some (.look (.noBoundary f.unicode), cs)
    else if c = 'A' then some (.look .textStart, cs)
    else if c = 'z' then some (.look .textEnd, cs)
    else if c = '<' then some (.look (.wordStart f.unicode), cs)
    else if c = '>' then some (.look (.wordEnd f.unicode), cs)
    else if !isAscii c then none
    else if !c.isAlphanum then some (.char c, cs)
    else match control? c with
      | some d => some (.char d, cs)
      | none => (f.short? c).map (.set ·, cs)

def classItem? (f : Flags) : List Char → Option (Item × List Char)
  | [] => none
  | '\\' :: cs => escape? f cs
  | c :: cs => some (.char c, cs)

/-- The code points that an item of a class stands for, before cases are made alike. -/
def Item.pairs? (f : Flags) : Item → Option (List (Nat × Nat))
  | .char c => if f.unicode || isAscii c then some [(c.toNat, c.toNat)] else none
  | .set s => some s.toList
  | .look _ => none

def range? (f : Flags) (a b : Item) : Option (List (Nat × Nat)) :=
  match a, b with
  | .char a, .char b => if a ≤ b && (f.unicode || isAscii b) then some [(a.toNat, b.toNat)] else none
  | _, _ => none

/-- The next character that counts, seen from just before it: under the verbose flag blanks and the first number sign
are passed over, and what follows the sign is seen even though it is a comment. -/
def Flags.glimpse (f : Flags) (cs : List Char) : Option Char :=
  if !f.verbose then cs.head?
  else
    let rest := match cs.dropWhile Text.isBlank with
      | '#' :: rest => rest.dropWhile Text.isBlank
      | rest => rest
    rest.head?.orElse fun _ => cs.head?

def classMember? (f : Flags) (cs : List Char) : Option (List (Nat × Nat) × List Char) := do
  let (a, rest) ← classItem? f cs
  let single := (a.pairs? f).map (·, f.skip rest)
  match f.skip rest with
  | '-' :: more =>
    -- a minus sign before the end of the class or another one stands for itself
    if f.glimpse more == some ']' || f.glimpse more == some '-' then single
    else
      let (b, rest) ← classItem? f (f.skip more)
      (range? f a b).map (·, rest)
  | [] => none
  | _ => single

/-- A class of ASCII characters by its name, after the opening bracket. -/
def asciiClass? (f : Flags) : List Char → Option (Option Ranges × List Char)
  | ':' :: cs =>
    let (negated, cs) := match cs with
      | '^' :: rest => (true, rest)
      | _ => (false, cs)
    match cs.dropWhile (· != ':') with
    | ':' :: ']' :: rest =>
      (ascii? (cs.takeWhile (· != ':'))).map fun set =>
        (f.allowed? (complementIf negated (f.folded set)), rest)
    | _ => none
  | _ => none

inductive Combination
  | both
  | first
  | one

def Combination.apply : Combination → Ranges → Ranges → Ranges
  | .both, a, b => a ∩ b
  | .first, a, b => a \ b
  | .one, a, b => (a ∪ b) \ (a ∩ b)

/-- The members of a class that stand side by side: their ranges in any order, and how deep each is nested. -/
structure Members where
  pairs : List (Nat × Nat) := []
  depths : List Nat := []

def Members.add (m : Members) (pairs : List (Nat × Nat)) (depth : Nat) : Members :=
  ⟨pairs ++ m.pairs, depth :: m.depths⟩

def Members.all (m : Members) : Nested Ranges := ⟨Ranges.ofList m.pairs, depthOf m.depths⟩

def combined (f : Flags) (left : Option (Combination × Nested Ranges)) (right : Nested Ranges) : Nested Ranges :=
  match left with
  | some (op, left) => ⟨op.apply (f.folded left.value) (f.folded right.value), max left.depth right.depth + 1⟩
  | none => right

def combination? : List Char → Option (Combination × List Char)
  | '&' :: '&' :: cs => some (.both, cs)
  | '-' :: '-' :: cs => some (.first, cs)
  | '~' :: '~' :: cs => some (.one, cs)
  | _ => none

/-- The start of a class after its bracket: whether it is negated, the minus signs or the closing bracket that stand
for themselves there, and the rest. -/
def classStart (f : Flags) (cs : List Char) : Bool × Members × List Char :=
  let (negated, cs) := match f.skip cs with
    | '^' :: rest => (true, f.skip rest)
    | cs => (false, cs)
  let (minus, rest) := f.run (· == '-') cs.length cs
  match minus, rest with
  | [], ']' :: rest => (negated, ⟨[(0x5D, 0x5D)], [0]⟩, f.skip rest)
  | minus, rest => (negated, ⟨minus.map fun _ => (0x2D, 0x2D), minus.map fun _ => 0⟩, rest)

/-- The rest of a class.  `left` is what stands before the last combination sign, `members` what has been read
since. -/
def classRest? (f : Flags) : Nat → Bool → Option (Combination × Nested Ranges) → Members → List Char →
    Option (Nested Ranges × List Char)
  | 0, _, _, _, _ => none
  | fuel + 1, negated, left, members, cs =>
    match f.skip cs with
    | [] => none
    | ']' :: rest =>
      let whole := combined f left members.all
      (f.allowed? (complementIf negated (f.folded whole.value))).map (⟨·, whole.depth + 1⟩, rest)
    | '[' :: rest =>
      match asciiClass? f rest with
      | some (named, rest) => do
        let named ← named
        classRest? f fuel negated left (members.add named.toList 0) rest
      | none => do
        let (negatedInside, start, rest) := classStart f rest
        let (inner, rest) ← classRest? f fuel negatedInside none start rest
        classRest? f fuel negated left (members.add inner.value.toList inner.depth) rest
    | cs =>
      match combination? cs with
      | some (op, rest) => classRest? f fuel negated (some (op, combined f left members.all)) {} rest
      | none => do
        let (member, rest) ← classMember? f cs
        classRest? f fuel negated left (members.add member 0) rest

def class? (f : Flags) (cs : List Char) : Option (Nested Ranges × List Char) :=
  let (negated, start, rest) := classStart f cs
  classRest? f (cs.length + 1) negated none start rest

def item? (f : Flags) : List Char → Option (Nested Pattern × List Char)
  | [] => none
  | '.' :: cs => f.dot?.map (⟨ofSet ·, 0⟩, cs)
  | '^' :: cs => some (⟨.look f.lineStart, 0⟩, cs)
  | '$' :: cs => some (⟨.look f.lineEnd, 0⟩, cs)
  | '[' :: cs => (class? f cs).map fun (chars, rest) => (⟨ofSet chars.value, chars.depth⟩, rest)
  | '\\' :: cs => (escape? f cs).map fun (item, rest) => match item with
    | .char c => (⟨f.literal c, 0⟩, rest)
    | .set s => (⟨ofSet s, 0⟩, rest)
    | .look condition => (⟨.look condition, 0⟩, rest)
  | c :: cs => some (⟨f.literal c, 0⟩, cs)

/-- Flags up to the colon or bracket after them: the flags they make, those named (the last first), and the rest. -/
def flagList? (f : Flags) (named : List Char) (on : Bool) : List Char → Option (Flags × List Char × List Char)
  | [] => none
  | c :: cs =>
    if c = ':' || c = ')' then (if named.head? = some '-' then none else some (f, named, c :: cs))
    else if named.contains c then none
    else if c = '-' then flagList? f (c :: named) false cs
    else match f.set? c on with
      | some f => flagList? f (c :: named) on cs
      | none => none

/-- What an opening bracket starts: a change of flags up to the end of the group around it, a part of a pattern under
some flags, or a group, maybe with a name. -/
inductive Opening
  | flags (f : Flags)
  | part (f : Flags)
  | group (name : Option (List Char))

def isNameChar (c : Char) : Bool :=
  c == '_' || c == '.' || c == '[' || c == ']' || Text.isAlphanumeric c

def groupName? (cs : List Char) : Option (List Char × List Char) :=
  match cs.takeWhile (· != '>'), cs.dropWhile (· != '>') with
  | c :: name, _ :: rest =>
    if Text.isIdentStart c && name.all isNameChar then some (c :: name, rest) else none
  | _, _ => none

def opening? (f : Flags) (cs : List Char) : Option (Opening × List Char) :=
  match f.skip cs with
  | '?' :: 'P' :: '<' :: cs => (groupName? cs).map fun (name, rest) => (.group (some name), rest)
  | '?' :: '<' :: cs => (groupName? cs).map fun (name, rest) => (.group (some name), rest)
  | '?' :: cs => do
    let (g, named, rest) ← flagList? f [] true cs
    match rest with
    | ')' :: rest => if named.isEmpty then none else some (.flags g, rest)
    | _ :: rest => some (.part g, rest)
    | [] => none
  | cs => some (.group none, cs)

/-- An item of a sequence: a pattern, or a change of flags, which cannot be repeated. -/
abbrev Step := Option (Nested Pattern)

/-- The pattern of the items of a sequence, the last first. -/
def sequenceOf (items : List Step) : Nested Pattern :=
  ⟨sequence (items.reverse.filterMap fun item => item.map (·.value)),
    depthOf (items.map fun item => item.elim 0 (·.depth))⟩

/-- The pattern of alternatives, the last first. -/
def choiceOf (items : List (Nested Pattern)) : Nested Pattern :=
  match items with
  | [p] => p
  | items => ⟨choice (items.reverse.map (·.value)), depthOf (items.map (·.depth))⟩

/-- The alternatives up to the end of the text or of the group.  `groups` holds the groups so far by their names,
`done` the alternatives before the last bar, and `items` what has been read since, the last first in each. -/
def alternatives? : Nat → Flags → List (Option (List Char)) → List (Nested Pattern) → List Step → List Char →
    Option (Nested Pattern × List (Option (List Char)) × List Char)
  | 0, _, _, _, _, _ => none
  | fuel + 1, f, groups, done, items, cs =>
    let cs := f.skip cs
    match repetition? f cs with
    | some found => do
      let (r, rest) ← found
      match items with
      | some p :: items =>
        let repeated := ⟨p.value.times r.least r.most r.greedy, p.depth + 1⟩
        alternatives? fuel f groups done (some repeated :: items) rest
      | _ => none
    | none =>
      match cs with
      | [] => some (choiceOf (sequenceOf items :: done), groups, [])
      | ')' :: rest => some (choiceOf (sequenceOf items :: done), groups, ')' :: rest)
      | '|' :: rest => alternatives? fuel f groups (sequenceOf items :: done) [] rest
      | '(' :: rest => do
        let (start, rest) ← opening? f rest
        match start with
        -- the flags hold up to the end of the group, and there is nothing here that could be repeated
        | .flags g => alternatives? fuel g groups done (none :: items) rest
        | .part g => do
          -- groups are numbered by their opening brackets, so the inner ones are passed on
          let (inner, groups, rest) ← alternatives? fuel g groups [] [] rest
          match rest with
          | ')' :: rest => alternatives? fuel f groups done (some { inner with depth := inner.depth + 1 } :: items) rest
          | _ => none
        | .group name =>
          if name.isSome && groups.contains name then none
          else
            let number := groups.length + 1
            let (inner, groups, rest) ← alternatives? fuel f (name :: groups) [] [] rest
            match rest with
            | ')' :: rest =>
              alternatives? fuel f groups done (some ⟨.group number inner.value, inner.depth + 1⟩ :: items) rest
            | _ => none
      | cs => do
        let (p, rest) ← item? f cs
        alternatives? fuel f groups done (some p :: items) rest

/-- **The pattern that a text spells**, if it spells one. -/
def parse? (text : String) : Option Pattern :=
  match alternatives? (text.length + 1) {} [] [] [] text.toList with
  | some (p, _, []) => if p.depth ≤ greatestDepth && p.value.fits then some p.value else none
  | _ => none

end Remedy.Pattern
