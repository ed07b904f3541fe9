/-!
# Blank — white space, trimming and cutting texts

Texts are worked on as lists of characters.  `trim` takes the white space off both ends; `lines` cuts at line feeds,
taking a carriage return before one with it; `pieces` cuts at every separator, `cutAt` at the first.
-/
namespace Remedy.Text

/-- White space: the White_Space property of the Unicode standard. -/
def isBlank (c : Char) : Bool :=
  let n := c.toNat
  (0x09 ≤ n && n ≤ 0x0D) || n == 0x20 || n == 0x85 || n == 0xA0 || n == 0x1680 || (0x2000 ≤ n && n ≤ 0x200A)
    || n == 0x2028 || n == 0x2029 || n == 0x202F || n == 0x205F || n == 0x3000

def trimStart (cs : List Char) : List Char := cs.dropWhile isBlank

def trimEnd (cs : List Char) : List Char := (cs.reverse.dropWhile isBlank).reverse

/-- **The text without the white space at its ends.** -/
def trim (cs : List Char) : List Char := trimEnd (trimStart cs)

/-- The text up to the last character is `c`, without it. -/
def dropLast? (c : Char) (cs : List Char) : Option (List Char) :=
  match cs.reverse with
  | d :: rest => if d = c then some rest.reverse else none
  | [] => none

/-- The text after a given beginning. -/
def after? : List Char → List Char → Option (List Char)
  | [], cs => some cs
  | p :: ps, c :: cs => if p = c then after? ps cs else none
  | _ :: _, [] => none

def startsWith (p cs : List Char) : Bool := (after? p cs).isSome

def endsWith (p cs : List Char) : Bool := startsWith p.reverse cs.reverse

/-- The text has `p` somewhere. -/
def contains (p : List Char) : List Char → Bool
  | [] => p.isEmpty
  | c :: cs => startsWith p (c :: cs) || contains p cs

/-- **The text cut at every `sep`**: one more piece than there are separators. -/
def pieces (sep : Char) : List Char → List (List Char)
  | [] => [[]]
  | c :: cs =>
    if c = sep then [] :: pieces sep cs
    else match pieces sep cs with
      | [] => [[c]]
      | p :: ps => (c :: p) :: ps

def cutAt (sep : Char) : List Char → Option (List Char × List Char)
  | [] => none
  | c :: cs => if c = sep then some ([], cs) else (cutAt sep cs).map fun (a, b) => (c :: a, b)

/-- A line that a line feed ends, without the carriage return before it. -/
def withoutReturn (line : List Char) : List Char := (dropLast? '\r' line).getD line

/-- The lines of a text; `line` holds the characters of the current one, the last first. -/
def linesFrom (line : List Char) : List Char → List (List Char)
  | [] => if line.isEmpty then [] else [line.reverse]
  | '\n' :: cs => withoutReturn line.reverse :: linesFrom [] cs
  | c :: cs => linesFrom (c :: line) cs

/-- **The lines of a text**, without what ends them. -/
def lines (cs : List Char) : List (List Char) := linesFrom [] cs

/-! ## The characters of a text outside quotes and brackets

Separators count only where no quote and no bracket is open.  A quote runs to the same quote character, and a
backslash inside takes the next character with it; the three kinds of brackets count alike, and a closing bracket
that nothing opened is passed over.
-/

/-- Where a scan stands inside a quote: the quote character, and whether a backslash has just been read. -/
structure OpenQuote where
  mark : Char
  escaped : Bool

/-- The state after one more character inside a quote; none once the quote is closed. -/
def OpenQuote.next (q : OpenQuote) (c : Char) : Option OpenQuote :=
  if q.escaped then some ⟨q.mark, false⟩
  else if c = '\\' then some ⟨q.mark, true⟩
  else if c = q.mark then none
  else some q

def isQuote (c : Char) : Bool := c == '"' || c == '\''

def isOpening (c : Char) : Bool := c == '(' || c == '[' || c == '{'

def isClosing (c : Char) : Bool := c == ')' || c == ']' || c == '}'

/-- Collects the outer characters of a text that starts at position `i`, inside `depth` brackets. -/
def outerFrom (i depth : Nat) (quote : Option OpenQuote) : List Char → List (Nat × Char)
  | [] => []
  | c :: cs =>
    match quote with
    | some q => outerFrom (i + 1) depth (q.next c) cs
    | none =>
      if isQuote c then outerFrom (i + 1) depth (some ⟨c, false⟩) cs
      else if isOpening c then outerFrom (i + 1) (depth + 1) none cs
      else if isClosing c then outerFrom (i + 1) (depth - 1) none cs
      else if depth = 0 then (i, c) :: outerFrom (i + 1) depth none cs
      else outerFrom (i + 1) depth none cs

/-- **The characters outside quotes and brackets**, each with its position. -/
def outer (cs : List Char) : List (Nat × Char) := outerFrom 0 0 none cs

def slice (cs : List Char) (a b : Nat) : List Char := (cs.drop a).take (b - a)

/-- The parts of `cs` from `start` on, cut at the given positions and trimmed. -/
def partsAt (cs : List Char) (start : Nat) : List Nat → List (List Char)
  | [] => [trim (cs.drop start)]
  | i :: is => trim (slice cs start i) :: partsAt cs (i + 1) is

/-- **The text cut at the outer separators**, each part trimmed. -/
def splitOuter (sep : Char) (cs : List Char) : List (List Char) :=
  partsAt cs 0 (((outer cs).filter (·.2 == sep)).map (·.1))

end Remedy.Text
