import Blueprint.Text.Alphabetic
import Blueprint.Text.Mark
import Blueprint.Text.Numeric

/-!
# Characters of names and words

Two classes built from the Unicode properties: `isAlphanumeric`, the characters that identifiers of
type expressions are made of, and `isWordChar`, the class a pattern writes as `\w`.  They differ on
marks and connectors, which are word characters only, and on numbers that are no digits, which are
alphanumeric only.
-/

namespace Blueprint.Text

/-- Whether a character is alphabetic or a number of any kind. -/
def isAlphanumeric (c : Char) : Bool :=
  isAlphabetic c || isNumeric c

/-- Whether a character is part of a word: alphabetic, a mark, a decimal digit, a connector or one
of the two join controls. -/
def isWordChar (c : Char) : Bool :=
  isAlphabetic c || isMark c || isDecimal c || isConnector c || c == '\u200C' || c == '\u200D'

end Blueprint.Text
