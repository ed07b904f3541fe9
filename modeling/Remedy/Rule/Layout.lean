import Remedy.Rule.Error
/-!
# Rule.Layout — the rules of a file

A rule runs over any number of lines up to one that ends in a full stop.  Blank lines and lines that start with `##`
do not count.  The lines of a rule are joined by single spaces; a backslash at the end of a line does the same as the
end of the line.
-/
namespace Remedy.Rule

/-- What has been read of the current rule, and the line it starts on; without a rule the text is empty. -/
structure Pending where
  text : List Char
  start : Nat

/-- A line that neither is blank nor starts with `##`; tabs inside it become spaces. -/
def content? (raw : List Char) : Option (List Char) :=
  let line := Text.trim raw
  if line.isEmpty || Text.startsWith ['#', '#'] line then none
  else some (line.map fun c => if c = '\t' then ' ' else c)

/-- The current rule ready for another line: a space is put after what has been read. -/
def Pending.opened (p : Pending) (line : Nat) : Pending :=
  if p.text.isEmpty then ⟨[], line⟩
  else if Text.endsWith [' '] p.text then p
  else ⟨p.text ++ [' '], p.start⟩

/-- Takes one more line into the current rule; gives the rule if the line ends it. -/
def Pending.take (p : Pending) (n : Nat) (line : List Char) : Pending × Option RuleText :=
  let p := p.opened n
  -- the backslash is looked at first: a full stop before it does not end the rule
  match Text.dropLast? '\\' line with
  | some continued => (⟨p.text ++ Text.trimEnd continued ++ [' '], p.start⟩, none)
  | none =>
    match Text.dropLast? '.' line with
    | some last => (⟨[], p.start⟩, some ⟨String.ofList (Text.trim (p.text ++ Text.trimEnd last)), p.start⟩)
    | none => (⟨p.text ++ line, p.start⟩, none)

def ofLines (p : Pending) (n : Nat) : List (List Char) → Except CompileError (List RuleText)
  | [] =>
    let rest := Text.trim p.text
    if rest.isEmpty then .ok [] else .error (.unterminated ⟨String.ofList rest, p.start⟩)
  | raw :: lines =>
    match content? raw with
    | none => ofLines p (n + 1) lines
    | some line =>
      match p.take n line with
      | (p, none) => ofLines p (n + 1) lines
      | (p, some rule) => (ofLines p (n + 1) lines).map (rule :: ·)

/-- **The rules of a file.** -/
def split (source : String) : Except CompileError (List RuleText) := ofLines ⟨[], 0⟩ 1 (Text.lines source.toList)

end Remedy.Rule
