import Remedy.Text.Category
import Remedy.Text.Marks
/-!
# Quoted — the written form of a text

A text is written between double quotes.  A double quote, a backslash, a line feed, a tab, a carriage return and the
null character have short escapes; any other character that would not show as itself is given by its code point.
-/
namespace Remedy.Text

/-! ## The characters that a quoted text shows as they are

A character is shown as it is when it is neither a control, format, unassigned, private or separator character (the
space apart) nor a mark that would join the character before it.
-/

/-- Control, format, private, unassigned and separator characters. -/
def unprintable : Ranges := controls ∪ formats ∪ privateUse ∪ unassigned ∪ separators

/-- The character has a shape of its own, or is the space. -/
def isPrintable (c : Char) : Bool :=
  if c.toNat < 0x7f then decide (0x20 ≤ c.toNat) else !unprintable.contains c

/-! ## Quotes and escapes -/

/-- The escape of a character by its code point, in lower case hexadecimal. -/
def codePointEscape (c : Char) : List Char :=
  ['\\', 'u', '{'] ++ Nat.toDigits 16 c.toNat ++ ['}']

/-- A character as it is written between double quotes. -/
def quoteChar (c : Char) : List Char :=
  if c = '"' then ['\\', '"']
  else if c = '\\' then ['\\', '\\']
  else if c = '\n' then ['\\', 'n']
  else if c = '\t' then ['\\', 't']
  else if c = '\r' then ['\\', 'r']
  else if c.toNat = 0 then ['\\', '0']
  else if isExtending c || !isPrintable c then codePointEscape c
  else [c]

/-- **The text between double quotes.** -/
def quoted (s : String) : String :=
  String.ofList ('"' :: s.toList.flatMap quoteChar ++ ['"'])

end Remedy.Text
