import Remedy.Text.Age
import Remedy.Text.Blank
import Remedy.Text.Break
import Remedy.Text.CaseFold
import Remedy.Text.Identifier
import Remedy.Text.Script
/-!
# Property — classes of characters by the names of the Unicode standard

A name stands for a property that a character has or has not, for a general category or for a script; with a colon or
an equals sign a value of a property is named, and with `!=` all other characters are meant.  Case, spaces, hyphens and
underscores do not count in names, nor does an `is` at their start.
-/
namespace Remedy.Text

/-- A name without what does not count in it.  The one name in which a starting `is` does count is `isc`. -/
def plainName (name : List Char) : String :=
  let (prefixed, body) := match name with
    | i :: s :: rest => if i.toLower = 'i' && s.toLower = 's' then (true, rest) else (false, name)
    | _ => (false, name)
  let plain := (body.map Char.toLower).filter fun c => c.toNat < 0x80 && c != '_' && c != '-' && c != ' '
  if prefixed && plain = ['c'] then "isc" else String.ofList plain

/-- The properties that a character has or has not. -/
def trait? (name : String) : Option Ranges :=
  match name with
  | "alphabetic" | "alpha" => some alphabetics
  | "asciihexdigit" | "ahex" => some asciiHexDigits
  | "bidicontrol" | "bidic" => some directionControls
  | "bidimirrored" | "bidim" => some mirrored
  | "cased" => some cased
  | "caseignorable" | "ci" => some caseIgnorable
  | "changeswhencasefolded" | "cwcf" => some changedByFolding
  | "changeswhencasemapped" | "cwcm" => some changedByCase
  | "changeswhenlowercased" | "cwl" => some changedByLower
  | "changeswhentitlecased" | "cwt" => some changedByTitle
  | "changeswhenuppercased" | "cwu" => some changedByUpper
  | "dash" => some dashCharacters
  | "defaultignorablecodepoint" | "di" => some ignorable
  | "deprecated" | "dep" => some deprecatedCharacters
  | "diacritic" | "dia" => some diacritics
  | "emoji" => some emoji
  | "emojicomponent" | "ecomp" => some emojiParts
  | "emojimodifier" | "emod" => some emojiModifiers
  | "emojimodifierbase" | "ebase" => some emojiBases
  | "emojipresentation" | "epres" => some emojiByDefault
  | "extendedpictographic" | "extpict" => some pictographs
  | "extender" | "ext" => some extenders
  | "graphemebase" | "grbase" =>
    some (others ∪ lineSeparators ∪ paragraphSeparators ∪ extending).complement
  | "graphemeextend" | "grext" => some extending
  | "graphemelink" | "grlink" => some linkers
  | "hexdigit" | "hex" => some hexDigits
  | "hyphen" => some hyphens
  | "idcompatmathcontinue" => some mathIdentifierRest
  | "idcompatmathstart" => some mathIdentifierStart
  | "idcontinue" | "idc" => some identifierRest
  | "ideographic" | "ideo" => some ideographs
  | "idsbinaryoperator" | "idsb" => some binaryDescriptions
  | "idstart" | "ids" => some identifierStart
  | "idstrinaryoperator" | "idst" => some ternaryDescriptions
  | "idsunaryoperator" | "idsu" => some unaryDescriptions
  | "joincontrol" | "joinc" => some joiners
  | "logicalorderexception" | "loe" => some visualOrder
  | "lowercase" | "lower" => some lowercase
  | "math" => some mathCharacters
  | "modifiercombiningmark" | "mcm" => some modifierMarks
  | "noncharactercodepoint" | "nchar" => some noncharacters
  | "otheralphabetic" | "oalpha" => some otherAlphabetic
  | "otherdefaultignorablecodepoint" | "odi" => some otherIgnorable
  | "othergraphemeextend" | "ogrext" => some otherExtending
  | "otheridcontinue" | "oidc" => some otherIdentifierRest
  | "otheridstart" | "oids" => some otherIdentifierStart
  | "otherlowercase" | "olower" => some lowerSigns
  | "othermath" | "omath" => some otherMath
  | "otheruppercase" | "oupper" => some upperSigns
  | "patternsyntax" | "patsyn" => some patternSyntax
  | "patternwhitespace" | "patws" => some patternSpace
  | "prependedconcatenationmark" | "pcm" => some spanningMarks
  | "quotationmark" | "qmark" => some quotationMarks
  | "radical" => some radicals
  | "regionalindicator" | "ri" => some regionLetters
  | "sentenceterminal" | "sterm" => some sentenceEnds
  | "softdotted" | "sd" => some softDotted
  | "terminalpunctuation" | "term" => some terminals
  | "unifiedideograph" | "uideo" => some unifiedIdeographs
  | "uppercase" | "upper" => some uppercase
  | "variationselector" | "vs" => some variationSelectors
  | "whitespace" | "wspace" | "space" => some whiteSpace
  | "xidcontinue" | "xidc" => some extendedRest
  | "xidstart" | "xids" => some extendedStart
  | _ => none

/-- The class of a value of a property. -/
def valued? (name value : String) : Option Ranges :=
  match name with
  | "generalcategory" | "gc" => category? value
  | "script" | "sc" => script? value
  | "scriptextensions" | "scx" => extendedScript? value
  | "age" => age? value
  | "graphemeclusterbreak" | "gcb" => clusterBreak? value
  | "wordbreak" | "wb" => wordBreak? value
  | "sentencebreak" | "sb" => sentenceBreak? value
  | _ => none

/-- The class of a name that stands alone. -/
def named? (name : String) : Option Ranges :=
  (trait? name).orElse fun _ => (category? name).orElse fun _ => script? name

/-- The text before and after the first place where `sign` stands. -/
def cutAtSign (sign : List Char) : List Char → Option (List Char × List Char)
  | [] => none
  | c :: cs =>
    match after? sign (c :: cs) with
    | some rest => some ([], rest)
    | none => (cutAtSign sign cs).map fun (before, rest) => (c :: before, rest)

/-- **The class that a name stands for**, and whether all other characters are meant. -/
def property? (name : List Char) : Option (Bool × Ranges) :=
  let cuts := [['!', '='], [':'], ['=']].map fun sign => (cutAtSign sign name).map (decide (sign.length = 2), ·)
  match cuts.findSome? id with
  | some (other, key, value) => (valued? (plainName key) (plainName value)).map (other, ·)
  | none => (named? (plainName name)).map (false, ·)

end Remedy.Text
