import Blueprint.Text.Blank
import Blueprint.Text.Position

/-!
# Places inside quoted strings

A fault in a type text is known by its column in the string that the document stands for; it is
reported at the place in the document where that character is written.  The raw text of the string
is walked one written character at a time: an escape is one character, and a backslash before blanks
is none and takes the blanks with it.
-/

namespace Blueprint.Document

open Text

/-- How a written character starts: the number of bytes it takes, and whether it stands for a
character of the string. -/
structure Step where
  size : Nat
  produces : Bool
deriving DecidableEq, Repr, Inhabited

/-- The step at a character of a raw string, with what follows it. -/
def stepAt (literal : Bool) (c : Char) (rest : List Char) : Step :=
  if c = '\\' && !literal then
    match rest.head? with
    | none => ⟨2, true⟩
    | some e =>
      if e = 'u' then ⟨6, true⟩
      else if e = 'U' then ⟨10, true⟩
      else if isBlank e then ⟨1 + byteLength (rest.takeWhile isBlank), false⟩
      else ⟨2, true⟩
  else ⟨c.utf8Size, true⟩

/-- The number of bytes before the character that follows `target` more characters of the string.
The first `skip` bytes belong to a step already taken; one that ends inside of a character leads
to the end of the text. -/
def walk (literal : Bool) : Nat → Nat → List Char → Nat
  | _, _, [] => 0
  | target, skip + 1, c :: rest =>
    if c.utf8Size ≤ skip + 1 then c.utf8Size + walk literal target (skip + 1 - c.utf8Size) rest
    else byteLength (c :: rest)
  | 0, 0, _ :: _ => 0
  | target + 1, 0, c :: rest =>
    let step := stepAt literal c rest
    c.utf8Size +
      walk literal (if step.produces then target else target + 1) (step.size - c.utf8Size) rest

/-- Whether a raw string opens with three quotes. -/
def opensLong : List Char → Bool
  | a :: b :: c :: _ => a = b && b = c && (a = '\x22' || a = '\x27')
  | _ => false

/-- The number of bytes of the line end at the start of a text. -/
def lineEndSize : List Char → Nat
  | '\r' :: '\n' :: _ => 2
  | '\n' :: _ => 1
  | _ => 0

/-- The number of bytes before the body of a raw string: its opening quotes, and the line end that
may follow three of them. -/
def bodyStart (raw : List Char) : Nat :=
  if opensLong raw then 3 + lineEndSize (raw.drop 3) else min 1 (byteLength raw)

/-- The offset in a raw string of the character that stands at a column, counted from 1, of the
string it stands for; the end of the raw string for a column past the last character. -/
def valueOffset (raw : List Char) (column : Nat) : Nat :=
  let body := (dropBytes? (bodyStart raw) raw).getD []
  bodyStart raw + walk (raw.head? = some '\x27') (column - 1) 0 body

end Blueprint.Document
