import Remedy.Json.Parser
/-!
# Json.Selection — objects of which only some members count

A reader that knows the names it wants passes over the other members of an object.  What is passed over has the shape
of a document, but stands for nothing: it nests as deep as it likes, its numbers have any size, and its escapes need
not name characters.
-/
namespace Remedy.Json

/-- The text after a text that is passed over, from behind its opening quote. -/
def passString : Nat → List Char → Option (List Char)
  | 0, _ => none
  | _ + 1, [] => none
  | _ + 1, '"' :: cs => some cs
  | fuel + 1, '\\' :: 'u' :: cs => (Text.hexNumber? 4 cs).bind fun (_, rest) => passString fuel rest
  | fuel + 1, '\\' :: c :: cs =>
    if ['"', '\\', '/', 'b', 'f', 'n', 'r', 't'].contains c then passString fuel cs else none
  | fuel + 1, c :: cs => if c = '\\' || c.toNat < 32 then none else passString fuel cs

def passDigits (cs : List Char) : Option (List Char) :=
  let rest := cs.dropWhile Decimal.isDigit
  if rest.length < cs.length then some rest else none

def passExponent : List Char → Option (List Char)
  | c :: cs =>
    if c = 'e' || c = 'E' then
      match cs with
      | '+' :: ds => passDigits ds
      | '-' :: ds => passDigits ds
      | ds => passDigits ds
    else some (c :: cs)
  | [] => some []

/-- The text after the fraction and the exponent of a number, of which each may be missing. -/
def passFraction : List Char → Option (List Char)
  | '.' :: cs => (passDigits cs).bind passExponent
  | cs => passExponent cs

/-- The text after a number without its sign: no digit follows a leading zero. -/
def passNumber : List Char → Option (List Char)
  | '0' :: c :: cs => if Decimal.isDigit c then none else passFraction (c :: cs)
  | cs => (passDigits cs).bind passFraction

mutual

def pass : Nat → List Char → Option (List Char)
  | 0, _ => none
  | fuel + 1, cs =>
    match skipBlank cs with
    | [] => none
    | 'n' :: r => word? ['u', 'l', 'l'] r
    | 't' :: r => word? ['r', 'u', 'e'] r
    | 'f' :: r => word? ['a', 'l', 's', 'e'] r
    | '-' :: r => passNumber r
    | '"' :: r => passString (r.length + 1) r
    | '[' :: r =>
      match skipBlank r with
      | ']' :: r => some r
      | r => passItems fuel r
    | '{' :: r =>
      match skipBlank r with
      | '}' :: r => some r
      | r => passMembers fuel r
    | r => passNumber r

def passItems : Nat → List Char → Option (List Char)
  | 0, _ => none
  | fuel + 1, cs =>
    match pass fuel cs with
    | none => none
    | some r =>
      match skipBlank r with
      | ',' :: r => passItems fuel r
      | ']' :: r => some r
      | _ => none

def passMembers : Nat → List Char → Option (List Char)
  | 0, _ => none
  | fuel + 1, cs =>
    match skipBlank cs with
    | '"' :: r =>
      match (passString (r.length + 1) r).map skipBlank with
      | some (':' :: r) =>
        match (pass fuel r).map skipBlank with
        | some (',' :: r) => passMembers fuel r
        | some ('}' :: r) => some r
        | _ => none
      | _ => none
    | _ => none

end

/-- The members of an object up to its brace; `acc` holds those that count, the last first. -/
def selected? (names : List String) : Nat → List (String × Json) → List Char → Option (Json × List Char)
  | 0, _, _ => none
  | fuel + 1, acc, cs =>
    match (string? (skipBlank cs)).map fun (key, r) => (key, skipBlank r) with
    | some (key, ':' :: r) =>
      let member : Option (List (String × Json) × List Char) :=
        if names.contains key then (value? fuel 127 r).map fun (j, r) => ((key, j) :: acc, r)
        else (pass fuel r).map (acc, ·)
      match member.map fun (acc, r) => (acc, skipBlank r) with
      | some (acc, ',' :: r) => selected? names fuel acc r
      | some (acc, '}' :: r) => some (.object acc.reverse, r)
      | _ => none
    | _ => none

/-- **The document that a text spells; of an object only the members with the given names.** -/
def select? (names : List String) (text : String) : Option Json :=
  match skipBlank text.toList with
  | '{' :: r =>
    let object :=
      match skipBlank r with
      | '}' :: r => some (.object [], r)
      | r => selected? names (2 * text.length + 2) [] r
    match object with
    | some (j, rest) => if (skipBlank rest).isEmpty then some j else none
    | none => none
  | _ => read? text

end Remedy.Json
