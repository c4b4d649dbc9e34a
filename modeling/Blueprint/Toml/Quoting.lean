import Blueprint.Text.Hex

/-!
# Quoted TOML strings

The four ways to quote a string: basic and literal, each on one line or on several.  A reader takes
the text after the opening quotes and gives the characters that the string stands for and the text
after the closing quotes.  Two more quotes may stand right before three closing ones.
-/

namespace Blueprint.Toml

open Text (codePoint?)

/-- A place where a text stops being TOML, as what is left of it. -/
structure Stuck where
  rest : List Char
deriving DecidableEq, Repr, Inhabited

/-- Whether a character is a control that only an escape can write; the tab is none. -/
def isControl (c : Char) : Bool :=
  (c.toNat < 0x20 && c != '\t') || c.toNat == 0x7F

/-- The character that a backslash and one more character stand for. -/
def simpleEscape? : Char → Option Char
  | 'b' => some '\x08'
  | 't' => some '\t'
  | 'n' => some '\n'
  | 'f' => some '\x0c'
  | 'r' => some '\r'
  | 'e' => some '\x1b'
  | '\x22' => some '\x22'
  | '\\' => some '\\'
  | _ => none

/-- A reading with one more character in front. -/
def consChar (c : Char) :
    Except Stuck (List Char × List Char) → Except Stuck (List Char × List Char)
  | .ok (s, rest) => .ok (c :: s, rest)
  | .error e => .error e

/-- The body of a basic string on one line. -/
def basicBody : List Char → Except Stuck (List Char × List Char)
  | '\x22' :: rest => .ok ([], rest)
  | '\\' :: 'x' :: a :: b :: rest =>
    match codePoint? [a, b] with
    | some c => consChar c (basicBody rest)
    | none => .error ⟨a :: b :: rest⟩
  | '\\' :: 'u' :: a :: b :: c :: d :: rest =>
    match codePoint? [a, b, c, d] with
    | some c => consChar c (basicBody rest)
    | none => .error ⟨a :: b :: c :: d :: rest⟩
  | '\\' :: 'U' :: a :: b :: c :: d :: e :: f :: g :: h :: rest =>
    match codePoint? [a, b, c, d, e, f, g, h] with
    | some c => consChar c (basicBody rest)
    | none => .error ⟨a :: b :: c :: d :: e :: f :: g :: h :: rest⟩
  | '\\' :: e :: rest =>
    match simpleEscape? e with
    | some c => consChar c (basicBody rest)
    | none => .error ⟨e :: rest⟩
  | c :: rest =>
    if isControl c || c = '\\' then .error ⟨c :: rest⟩ else consChar c (basicBody rest)
  | [] => .error ⟨[]⟩

/-- The body of a literal string on one line. -/
def literalBody : List Char → Except Stuck (List Char × List Char)
  | '\x27' :: rest => .ok ([], rest)
  | c :: rest => if isControl c then .error ⟨c :: rest⟩ else consChar c (literalBody rest)
  | [] => .error ⟨[]⟩

/-- The number of characters of the blanks and line ends that a text starts with. -/
def blankRun : List Char → Nat
  | '\r' :: '\n' :: rest => blankRun rest + 2
  | c :: rest => if c = ' ' || c = '\t' || c = '\n' then blankRun rest + 1 else 0
  | [] => 0

/-- Whether a text starts with a line end. -/
def startsLineEnd : List Char → Bool
  | '\n' :: _ => true
  | '\r' :: '\n' :: _ => true
  | _ => false

/-- The text after the spaces and tabs at its start. -/
def dropSpaces (s : List Char) : List Char :=
  s.dropWhile fun c => c = ' ' || c = '\t'

/-- The body of a basic string on several lines, after its first `skip` characters.  A backslash at
the end of a line takes all blanks and line ends after it away. -/
def longBasicBody : Nat → List Char → Except Stuck (List Char × List Char)
  | skip + 1, _ :: rest => longBasicBody skip rest
  | 0, '\x22' :: '\x22' :: '\x22' :: '\x22' :: '\x22' :: rest => .ok (['\x22', '\x22'], rest)
  | 0, '\x22' :: '\x22' :: '\x22' :: '\x22' :: rest => .ok (['\x22'], rest)
  | 0, '\x22' :: '\x22' :: '\x22' :: rest => .ok ([], rest)
  | 0, '\\' :: 'x' :: a :: b :: rest =>
    match codePoint? [a, b] with
    | some c => consChar c (longBasicBody 0 rest)
    | none => .error ⟨a :: b :: rest⟩
  | 0, '\\' :: 'u' :: a :: b :: c :: d :: rest =>
    match codePoint? [a, b, c, d] with
    | some c => consChar c (longBasicBody 0 rest)
    | none => .error ⟨a :: b :: c :: d :: rest⟩
  | 0, '\\' :: 'U' :: a :: b :: c :: d :: e :: f :: g :: h :: rest =>
    match codePoint? [a, b, c, d, e, f, g, h] with
    | some c => consChar c (longBasicBody 0 rest)
    | none => .error ⟨a :: b :: c :: d :: e :: f :: g :: h :: rest⟩
  | 0, '\\' :: e :: rest =>
    if startsLineEnd (dropSpaces (e :: rest)) then longBasicBody (blankRun (e :: rest) - 1) rest
    else
      match simpleEscape? e with
      | some c => consChar c (longBasicBody 0 rest)
      | none => .error ⟨e :: rest⟩
  | 0, '\r' :: '\n' :: rest => consChar '\r' (consChar '\n' (longBasicBody 0 rest))
  | 0, c :: rest =>
    if (isControl c && c != '\n') || c = '\\' then .error ⟨c :: rest⟩
    else consChar c (longBasicBody 0 rest)
  | _, [] => .error ⟨[]⟩

/-- The body of a literal string on several lines. -/
def longLiteralBody : List Char → Except Stuck (List Char × List Char)
  | '\x27' :: '\x27' :: '\x27' :: '\x27' :: '\x27' :: rest => .ok (['\x27', '\x27'], rest)
  | '\x27' :: '\x27' :: '\x27' :: '\x27' :: rest => .ok (['\x27'], rest)
  | '\x27' :: '\x27' :: '\x27' :: rest => .ok ([], rest)
  | '\r' :: '\n' :: rest => consChar '\r' (consChar '\n' (longLiteralBody rest))
  | c :: rest =>
    if isControl c && c != '\n' then .error ⟨c :: rest⟩ else consChar c (longLiteralBody rest)
  | [] => .error ⟨[]⟩

/-- The text after the line end that may follow three opening quotes. -/
def dropLineEnd : List Char → List Char
  | '\n' :: rest => rest
  | '\r' :: '\n' :: rest => rest
  | s => s

/-- The ways to quote a string. -/
inductive QuoteStyle where
  | basic
  | literal
  | longBasic
  | longLiteral
deriving DecidableEq, Repr, Inhabited

/-- The quoting that a text starts with, and the text after the opening quotes. -/
def openQuote? : List Char → Option (QuoteStyle × List Char)
  | '\x22' :: '\x22' :: '\x22' :: rest => some (.longBasic, rest)
  | '\x22' :: rest => some (.basic, rest)
  | '\x27' :: '\x27' :: '\x27' :: rest => some (.longLiteral, rest)
  | '\x27' :: rest => some (.literal, rest)
  | _ => none

/-- The string that a text starts with after its opening quotes. -/
def readQuoted (style : QuoteStyle) (s : List Char) : Except Stuck (List Char × List Char) :=
  match style with
  | .basic => basicBody s
  | .literal => literalBody s
  | .longBasic => longBasicBody 0 (dropLineEnd s)
  | .longLiteral => longLiteralBody (dropLineEnd s)

end Blueprint.Toml
