import Remedy.Text.Letters
import Remedy.Text.Marks
import Remedy.Text.Numbers
import Remedy.Text.Signs
/-!
# Category — the general categories of the Unicode standard

Every code point has one general category.  The categories come in groups, which have names too: letters, marks,
numbers, punctuation, symbols, separators and others.
-/
namespace Remedy.Text

def controls : Ranges := ⟨#[(0x00, 0x1F), (0x7F, 0x9F)]⟩

/-- Characters that are left to private agreements. -/
def privateUse : Ranges := ⟨#[(0xE000, 0xF8FF), (0xF0000, 0xFFFFD), (0x100000, 0x10FFFD)]⟩

/-- Code points that are no characters but the halves of one in another encoding. -/
def surrogates : Ranges := ⟨#[(0xD800, 0xDFFF)]⟩

/-- The code points that the standard leaves open. -/
def unassigned : Ranges :=
  (letters ∪ marks ∪ numbers ∪ punctuation ∪ symbols ∪ separators ∪ controls ∪ formats ∪ surrogates
    ∪ privateUse).complement

/-- The characters of none of the other groups: controls, layout, private and unassigned ones. -/
def others : Ranges := controls ∪ formats ∪ surrogates ∪ privateUse ∪ unassigned

/-- **The category or group with a name**, or with the short form of one, in lower case and without the characters
that do not count in names. -/
def category? (name : String) : Option Ranges :=
  match name with
  | "l" | "letter" => some letters
  | "lc" | "casedletter" => some casedLetters
  | "lu" | "uppercaseletter" => some capitals
  | "ll" | "lowercaseletter" => some smalls
  | "lt" | "titlecaseletter" => some titleLetters
  | "lm" | "modifierletter" => some modifierLetters
  | "lo" | "otherletter" => some caselessLetters
  | "m" | "mark" | "combiningmark" => some marks
  | "mn" | "nonspacingmark" => some standingMarks
  | "mc" | "spacingmark" => some spacingMarks
  | "me" | "enclosingmark" => some enclosingMarks
  | "n" | "number" => some numbers
  | "nd" | "decimalnumber" | "digit" => some decimalDigits
  | "nl" | "letternumber" => some letterNumbers
  | "no" | "othernumber" => some otherNumbers
  | "p" | "punctuation" | "punct" => some punctuation
  | "pc" | "connectorpunctuation" => some connectors
  | "pd" | "dashpunctuation" => some dashes
  | "ps" | "openpunctuation" => some openings
  | "pe" | "closepunctuation" => some closings
  | "pi" | "initialpunctuation" => some initialQuotes
  | "pf" | "finalpunctuation" => some finalQuotes
  | "po" | "otherpunctuation" => some otherPunctuation
  | "s" | "symbol" => some symbols
  | "sm" | "mathsymbol" => some mathSymbols
  | "sc" | "currencysymbol" => some currencySymbols
  | "sk" | "modifiersymbol" => some modifierSymbols
  | "so" | "othersymbol" => some otherSymbols
  | "z" | "separator" => some separators
  | "zs" | "spaceseparator" => some spaces
  | "zl" | "lineseparator" => some lineSeparators
  | "zp" | "paragraphseparator" => some paragraphSeparators
  | "c" | "other" => some others
  | "cc" | "control" | "cntrl" => some controls
  | "cf" | "format" => some formats
  | "co" | "privateuse" => some privateUse
  | "cn" | "unassigned" => some unassigned
  | "any" => some ⟨#[(0, Ranges.lastCodePoint)]⟩
  | "assigned" => some unassigned.complement
  | "ascii" => some ⟨#[(0, 0x7F)]⟩
  | _ => none

end Remedy.Text
