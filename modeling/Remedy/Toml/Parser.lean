import Remedy.Toml.Number
import Remedy.Toml.Table
import Remedy.Toml.Text
/-!
# Toml.Parser — documents from their text

A document is a sequence of lines, each with a key and its value or with a header; blank lines and comments stand
anywhere between them.  Values nest fewer than eighty deep, and a key has fewer than eighty parts.
-/
namespace Remedy.Toml

def nesting : Nat := 80

/-- The text after a comment, which starts at `#` and goes to the end of its line. -/
def skipComment : List Char → List Char
  | '#' :: cs => cs.dropWhile isPlain
  | cs => cs

/-- The text after the end of a line, with the blanks and the comment before it. -/
def endOfLine? (cs : List Char) : Option (List Char) :=
  match skipComment (skipBlank cs) with
  | [] => some []
  | cs => lineEnd? cs

/-- The text after blanks, line ends and comments. -/
def skipGaps : Nat → List Char → List Char
  | 0, cs => cs
  | fuel + 1, cs =>
    match skipBlank cs with
    | '#' :: rest =>
      match lineEnd? (rest.dropWhile isPlain) with
      | some rest => skipGaps fuel rest
      | none => '#' :: rest
    | rest =>
      match lineEnd? rest with
      | some rest => skipGaps fuel rest
      | none => rest

/-- The characters of a key without quotes. -/
def isBare (c : Char) : Bool := c.isAlphanum || c == '_' || c == '-'

def part? (cs : List Char) : Option (String × List Char) :=
  match cs with
  | '"' :: _ => line? cs
  | '\'' :: _ => line? cs
  | _ =>
    let name := cs.takeWhile isBare
    if name.isEmpty then none else some (String.ofList name, cs.dropWhile isBare)

/-- A key with the parts read before it, the last first. -/
def keyRest : Nat → List String → List Char → Option (Key × List Char)
  | 0, _, _ => none
  | fuel + 1, before, cs =>
    match part? (skipBlank cs) with
    | none => none
    | some (part, rest) =>
      match skipBlank rest with
      | '.' :: rest => keyRest fuel (part :: before) rest
      | rest => if nesting ≤ before.length + 1 then none else some (⟨before.reverse, part⟩, rest)

/-- **A key**, with the blanks around it. -/
def key? (cs : List Char) : Option (Key × List Char) := keyRest (cs.length + 1) [] cs

def word? : List Char → List Char → Option (List Char)
  | [], cs => some cs
  | w :: ws, c :: cs => if w = c then word? ws cs else none
  | _ :: _, [] => none

mutual

/-- **A value** at the start of the text, with `depth` levels of nesting left. -/
def value? : Nat → Nat → List Char → Option (Toml × List Char)
  | 0, _, _ => none
  | fuel + 1, depth, cs =>
    match cs with
    | '"' :: _ => (text? cs).map fun (s, rest) => (.string s, rest)
    | '\'' :: _ => (text? cs).map fun (s, rest) => (.string s, rest)
    | 't' :: rest => (word? ['r', 'u', 'e'] rest).map (.bool true, ·)
    | 'f' :: rest => (word? ['a', 'l', 's', 'e'] rest).map (.bool false, ·)
    | '[' :: rest =>
      if depth ≤ 1 then none
      else
        match skipGaps rest.length rest with
        | ']' :: rest => some (.array [], rest)
        | rest => items? fuel (depth - 1) [] rest
    | '{' :: rest =>
      if depth ≤ 1 then none
      else
        match skipBlank rest with
        | '}' :: rest => some (.table [], rest)
        | rest => pairs? fuel (depth - 1) [] rest
    | cs => numeral? cs

/-- The items of an array up to its bracket; `acc` holds those read, the last first. -/
def items? : Nat → Nat → List Toml → List Char → Option (Toml × List Char)
  | 0, _, _, _ => none
  | fuel + 1, depth, acc, cs =>
    match value? fuel depth cs with
    | none => none
    | some (v, rest) =>
      match skipGaps rest.length rest with
      | ']' :: rest => some (.array (v :: acc).reverse, rest)
      | ',' :: rest =>
        -- an array may end with a comma, a table between braces may not
        match skipGaps rest.length rest with
        | ']' :: rest => some (.array (v :: acc).reverse, rest)
        | rest => items? fuel depth (v :: acc) rest
      | _ => none

/-- The keys and values of a table up to its brace. -/
def pairs? : Nat → Nat → List (Key × Toml) → List Char → Option (Toml × List Char)
  | 0, _, _, _ => none
  | fuel + 1, depth, acc, cs =>
    match key? cs with
    | some (k, '=' :: rest) =>
      match value? fuel depth (skipBlank rest) with
      | none => none
      | some (v, rest) =>
        match skipBlank rest with
        | '}' :: rest => (ofPairs? ((k, v) :: acc).reverse).map (·, rest)
        | ',' :: rest => pairs? fuel depth ((k, v) :: acc) rest
        | _ => none
    | _ => none

end

def pair? (cs : List Char) : Option (Statement × List Char) :=
  match key? cs with
  | some (k, '=' :: rest) => (value? (2 * rest.length + 2) nesting (skipBlank rest)).map fun (v, rest) => (.pair k v, rest)
  | _ => none

def statement? (cs : List Char) : Option (Statement × List Char) :=
  match cs with
  | '[' :: '[' :: rest =>
    match key? rest with
    | some (k, ']' :: ']' :: rest) => some (.next k, rest)
    | _ => none
  | '[' :: rest =>
    match key? rest with
    | some (k, ']' :: rest) => some (.header k, rest)
    | _ => none
  | _ => pair? cs

/-- The statements of a text; `acc` holds those read, the last first. -/
def statements? : Nat → List Statement → List Char → Option (List Statement)
  | 0, _, _ => none
  | fuel + 1, acc, cs =>
    match skipGaps cs.length cs with
    | [] => some acc.reverse
    -- the last comment need not have the end of a line
    | '#' :: rest => if (rest.dropWhile isPlain).isEmpty then some acc.reverse else none
    | cs =>
      match statement? cs with
      | none => none
      | some (s, rest) =>
        match endOfLine? rest with
        | some rest => statements? fuel (s :: acc) rest
        | none => none

/-- The text without a byte order mark at its start. -/
def afterMark : List Char → List Char
  | '\uFEFF' :: cs => cs
  | cs => cs

/-- **The entries of the document that a text spells**, if it spells one. -/
def parse? (text : String) : Option (List (String × Toml)) :=
  (statements? (text.length + 1) [] (afterMark text.toList)).bind ofStatements?

end Remedy.Toml
