import Blueprint.Text.Mark
import Blueprint.Text.Printable

/-!
# Quoted text

How a message shows a text that it quotes: between double quotes, with escapes for the quote, the
backslash, the usual controls, and every character that shows nothing of its own or attaches to the
one before it.
-/

namespace Blueprint.Text

/-- The code point of a character in lower-case hexadecimal digits. -/
def hexDigits (c : Char) : List Char :=
  Nat.toDigits 16 c.toNat

/-- One character as it stands between the quotes. -/
def quotedChar (c : Char) : List Char :=
  if c = '\x00' then ['\\', '0']
  else if c = '\t' then ['\\', 't']
  else if c = '\r' then ['\\', 'r']
  else if c = '\n' then ['\\', 'n']
  else if c = '\\' || c = '\x22' then ['\\', c]
  else if extendsCluster c || !isPrintable c then
    ['\\', 'u', '\x7b'] ++ hexDigits c ++ ['\x7d']
  else [c]

/-- A text between double quotes. -/
def quoted (s : String) : String :=
  String.ofList ('\x22' :: s.toList.flatMap quotedChar ++ ['\x22'])

end Blueprint.Text
