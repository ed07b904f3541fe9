import Remedy.Text.Hex
/-!
# Toml.Text — texts of a TOML document

A text stands between double quotes, with escapes, or between single quotes, without.  Between three quotes of a kind
it may go over several lines: a line end after the opening quotes does not count, one of carriage return and line feed
counts as a line feed, and in the form with escapes a backslash at the end of a line joins it with the next word.
-/
namespace Remedy.Toml

def isBlank (c : Char) : Bool := c == ' ' || c == '\t'

/-- The characters that may stand in a line: all but control characters, and the tab. -/
def isPlain (c : Char) : Bool := c == '\t' || (0x20 ≤ c.toNat && c.toNat ≠ 0x7F)

def skipBlank (cs : List Char) : List Char := cs.dropWhile isBlank

def lineEnd? : List Char → Option (List Char)
  | '\n' :: cs => some cs
  | '\r' :: '\n' :: cs => some cs
  | _ => none

/-- The character that the text after a backslash stands for. -/
def escape? : List Char → Option (Char × List Char)
  | 'b' :: cs => some ('\x08', cs)
  | 't' :: cs => some ('\t', cs)
  | 'n' :: cs => some ('\n', cs)
  | 'f' :: cs => some ('\x0c', cs)
  | 'r' :: cs => some ('\r', cs)
  | '"' :: cs => some ('"', cs)
  | '\\' :: cs => some ('\\', cs)
  | 'u' :: cs => (Text.hexNumber? 4 cs).bind fun (n, cs) => (Text.charOf? n).map (·, cs)
  | 'U' :: cs => (Text.hexNumber? 8 cs).bind fun (n, cs) => (Text.charOf? n).map (·, cs)
  | _ => none

/-- A text between double quotes, after the first; `acc` holds what is read of it, the last character first. -/
def quotedRest : Nat → List Char → List Char → Option (String × List Char)
  | 0, _, _ => none
  | _ + 1, _, [] => none
  | _ + 1, acc, '"' :: cs => some (String.ofList acc.reverse, cs)
  | fuel + 1, acc, '\\' :: cs => (escape? cs).bind fun (c, cs) => quotedRest fuel (c :: acc) cs
  | fuel + 1, acc, c :: cs => if isPlain c then quotedRest fuel (c :: acc) cs else none

/-- A text between single quotes, after the first. -/
def rawRest (cs : List Char) : Option (String × List Char) :=
  let body := cs.takeWhile fun c => isPlain c && c != '\''
  match cs.dropWhile fun c => isPlain c && c != '\'' with
  | '\'' :: rest => some (String.ofList body, rest)
  | _ => none

/-- The text after a backslash at the end of a line: what follows the blanks and line ends. -/
def joined? : Nat → Bool → List Char → Option (List Char)
  | 0, _, _ => none
  | fuel + 1, ended, cs =>
    match lineEnd? cs with
    | some cs => joined? fuel true cs
    | none =>
      match cs with
      | c :: rest => if isBlank c then joined? fuel ended rest else if ended then some cs else none
      | [] => if ended then some cs else none

/-- A text over several lines, after the opening quotes of the given kind.  Of up to five quotes the last three close
it, and the others belong to it. -/
def linesRest (quote : Char) : Nat → List Char → List Char → Option (String × List Char)
  | 0, _, _ => none
  | fuel + 1, acc, cs =>
    let quotes := (cs.takeWhile (· == quote)).length
    if 3 ≤ quotes then
      let extra := min (quotes - 3) 2
      some (String.ofList (List.replicate extra quote ++ acc).reverse, cs.drop (extra + 3))
    else
      match lineEnd? cs with
      | some cs => linesRest quote fuel ('\n' :: acc) cs
      | none =>
        match cs with
        | [] => none
        | '\\' :: rest =>
          if quote = '\'' then linesRest quote fuel ('\\' :: acc) rest
          else
            match joined? (rest.length + 1) false rest with
            | some rest => linesRest quote fuel acc rest
            | none => (escape? rest).bind fun (c, rest) => linesRest quote fuel (c :: acc) rest
        | c :: rest => if isPlain c then linesRest quote fuel (c :: acc) rest else none

/-- A text over several lines, without the line end after its opening quotes. -/
def lines? (quote : Char) (cs : List Char) : Option (String × List Char) :=
  linesRest quote (cs.length + 1) [] ((lineEnd? cs).getD cs)

/-- **A text on one line**, from its quote on. -/
def line? : List Char → Option (String × List Char)
  | '"' :: cs => quotedRest (cs.length + 1) [] cs
  | '\'' :: cs => rawRest cs
  | _ => none

/-- **A text**, from its quotes on. -/
def text? : List Char → Option (String × List Char)
  | '"' :: '"' :: '"' :: cs => lines? '"' cs
  | '\'' :: '\'' :: '\'' :: cs => lines? '\'' cs
  | cs => line? cs

end Remedy.Toml
