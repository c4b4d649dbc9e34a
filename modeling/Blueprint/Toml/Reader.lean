import Blueprint.Text.Position
import Blueprint.Toml.Moment
import Blueprint.Toml.Value

/-!
# Reading TOML statements

A TOML text is a list of statements: headers, and assignments to dotted keys.  Every reader takes
the rest of the text and gives what it read and the new rest; the place of a piece follows from the
number of bytes that are left, so a reader needs the size of the whole text only.

Arrays and inline tables nest at most `depthLimit` deep, which bounds the recursion; the loops over
their members are bounded by the length of the rest.
-/

namespace Blueprint.Toml

/-- How deep arrays and inline tables may nest. -/
def depthLimit : Nat := 80

/-! ## Places and gaps -/

/-- The bytes between two rests of a text of `size` bytes. -/
def spanBetween (size : Nat) (before after : List Char) : Span :=
  ⟨size - Text.byteLength before, size - Text.byteLength after⟩

/-- The text after a gap of spaces, line ends and comments; `inComment` tells whether it starts
inside of a comment. -/
def dropGap (inComment : Bool) : List Char → Except Stuck (List Char)
  | [] => .ok []
  | c :: rest =>
    if c = '\n' then dropGap false rest
    else if c = '\r' then
      if rest.head? = some '\n' then dropGap inComment rest else .error ⟨c :: rest⟩
    else if inComment then
      if isControl c then .error ⟨c :: rest⟩ else dropGap true rest
    else if c = '#' then dropGap true rest
    else if c = ' ' || c = '\t' then dropGap false rest
    else .ok (c :: rest)

/-- The text from the end of its first line on, that line being a comment. -/
def dropComment : List Char → Except Stuck (List Char)
  | [] => .ok []
  | '\n' :: rest => .ok ('\n' :: rest)
  | '\r' :: '\n' :: rest => .ok ('\r' :: '\n' :: rest)
  | c :: rest => if isControl c then .error ⟨c :: rest⟩ else dropComment rest

/-- The text after the end of a line on which only a comment may still stand. -/
def dropRestOfLine (s : List Char) : Except Stuck (List Char) := do
  let s ←
    match dropSpaces s with
    | '#' :: rest => dropComment rest
    | s => .ok s
  match s with
  | [] => .ok []
  | '\n' :: rest => .ok rest
  | '\r' :: '\n' :: rest => .ok rest
  | s => .error ⟨s⟩

/-- The text after a character that must stand at its start. -/
def expectChar (wanted : Char) (s : List Char) : Except Stuck (List Char) :=
  match dropChar? wanted s with
  | some rest => .ok rest
  | none => .error ⟨s⟩

/-! ## Keys -/

/-- Whether a character may stand in a key without quotes. -/
def isBareChar (c : Char) : Bool :=
  ('a' ≤ c && c ≤ 'z') || ('A' ≤ c && c ≤ 'Z') || ('0' ≤ c && c ≤ '9') || c = '_' || c = '-'

/-- One part of a dotted key, bare or quoted on one line. -/
def readKeyPart (size : Nat) (s : List Char) : Except Stuck (Key × List Char) :=
  match openQuote? s with
  | some (style, body) =>
    if style = .basic || style = .literal then do
      let (text, rest) ← readQuoted style body
      .ok (⟨String.ofList text, spanBetween size s rest⟩, rest)
    else .error ⟨s⟩
  | none =>
    let text := s.takeWhile isBareChar
    let rest := s.dropWhile isBareChar
    if text.isEmpty then .error ⟨s⟩
    else .ok (⟨String.ofList text, spanBetween size s rest⟩, rest)

/-- A dotted key: the parts before the last one, and the last one. -/
structure KeyPath where
  parents : List Key
  last : Key
deriving Repr, Inhabited

/-- The parts of a dotted key, at most `fuel + 1` of them, with spaces around the points. -/
def readKeyParts (size : Nat) : Nat → List Char → Except Stuck (KeyPath × List Char)
  | 0, s => .error ⟨s⟩
  | fuel + 1, s => do
    let (part, rest) ← readKeyPart size (dropSpaces s)
    match dropSpaces rest with
    | '.' :: rest =>
      let (path, rest) ← readKeyParts size fuel rest
      .ok (⟨part :: path.parents, path.last⟩, rest)
    | rest => .ok (⟨[], part⟩, rest)

/-- A dotted key and the text after the spaces that follow it. -/
def readKeyPath (size : Nat) (s : List Char) : Except Stuck (KeyPath × List Char) :=
  readKeyParts size (s.length + 1) s

/-! ## Adding to tables -/

/-- The entries with one more, at the end of a dotted key.  A part of the key may name a table that
a dotted key made before, or a new one; a table that a header or braces made is closed to it. -/
def assign : List Key → Key → Value → Entries → Option Entries
  | [], key, value, entries =>
    if (entries.find? key.text).isSome then none else some (entries ++ [(key, value)])
  | part :: path, key, value, entries =>
    match entries.find? part.text with
    | none =>
      (assign path key value []).map fun inner =>
        entries ++ [(part, .table part.span .dotted inner)]
    | some (_, .table span .dotted inner) =>
      (assign path key value inner).map fun inner =>
        entries.replace part.text (.table span .dotted inner)
    | some (_, .table span .implied inner) =>
      if path.isEmpty then none
      else
        (assign path key value inner).map fun inner =>
          entries.replace part.text (.table span .implied inner)
    | some _ => none

/-! ## Values -/

/-- Whether a character may stand in a number, a date or a truth value. -/
def isWordChar (c : Char) : Bool :=
  isBareChar c || c = '+' || c = '.' || c = ':'

/-- The word of a value without quotes and brackets.  A space divides it only if a time follows a
date after it. -/
def takeWord (s : List Char) : List Char × List Char :=
  let word := s.takeWhile isWordChar
  let rest := s.dropWhile isWordChar
  match rest with
  | ' ' :: after =>
    if dropDate? word = some [] && (fixedDigits? 2 after).isSome then
      (word ++ ' ' :: after.takeWhile isWordChar, after.dropWhile isWordChar)
    else (word, rest)
  | _ => (word, rest)

/-- The value of a word.  A float too large for its format is none. -/
def wordValue? (span : Span) (word : List Char) : Option Value :=
  if word = ['t', 'r', 'u', 'e'] then some (.boolean span true)
  else if word = ['f', 'a', 'l', 's', 'e'] then some (.boolean span false)
  else
    match integerOf? word with
    | some n => some (.integer span n)
    | none =>
      match floatOf? word with
      | some x =>
        if (x = .infinite true || x = .infinite false) && word.any Char.isDigit then none
        else some (.float span x)
      | none => if isMoment word then some (.moment span) else none

/-- The items of an array after its opening bracket, at most `fuel` of them.  A comma may follow the
last one. -/
def readItems (item : List Char → Except Stuck (Value × List Char)) :
    Nat → List Char → Except Stuck (List Value × List Char)
  | 0, s => .error ⟨s⟩
  | fuel + 1, s => do
    match ← dropGap false s with
    | ']' :: rest => .ok ([], rest)
    | s =>
      let (value, rest) ← item s
      match ← dropGap false rest with
      | ',' :: rest =>
        let (values, rest) ← readItems item fuel rest
        .ok (value :: values, rest)
      | ']' :: rest => .ok ([value], rest)
      | rest => .error ⟨rest⟩

/-- A key, an equals sign and a value. -/
def readAssignment (size : Nat) (item : List Char → Except Stuck (Value × List Char))
    (s : List Char) : Except Stuck ((KeyPath × Value) × List Char) := do
  let (path, rest) ← readKeyPath size s
  let rest ← expectChar '=' rest
  let (value, rest) ← item (dropSpaces rest)
  .ok ((path, value), rest)

/-- The entries of an inline table after its opening brace, at most `fuel` assignments, added to
those before.  A comma may follow the last one. -/
def readMembers (size : Nat) (item : List Char → Except Stuck (Value × List Char)) :
    Nat → Entries → List Char → Except Stuck (Entries × List Char)
  | 0, _, s => .error ⟨s⟩
  | fuel + 1, entries, s => do
    match ← dropGap false s with
    | '\x7d' :: rest => .ok (entries, rest)
    | s =>
      let ((path, value), rest) ← readAssignment size item s
      match assign path.parents path.last value entries with
      | none => .error ⟨s⟩
      | some entries =>
        match ← dropGap false rest with
        | ',' :: rest => readMembers size item fuel entries rest
        | '\x7d' :: rest => .ok (entries, rest)
        | rest => .error ⟨rest⟩

/-- A value that nests at most `depth` deep. -/
def readValue (size : Nat) : Nat → List Char → Except Stuck (Value × List Char)
  | depth, s =>
    match openQuote? s with
    | some (style, body) => do
      let (text, rest) ← readQuoted style body
      .ok (.string (spanBetween size s rest) (String.ofList text), rest)
    | none =>
      match depth, s with
      | depth + 1, '[' :: body => do
        let (items, rest) ← readItems (readValue size depth) (body.length + 1) body
        .ok (.array (spanBetween size s rest) .inline items, rest)
      | depth + 1, '\x7b' :: body => do
        let (entries, rest) ← readMembers size (readValue size depth) (body.length + 1) [] body
        .ok (.table (spanBetween size s rest) .inline entries, rest)
      | _, _ =>
        let (word, rest) := takeWord s
        match wordValue? (spanBetween size s rest) word with
        | some value => .ok (value, rest)
        | none => .error ⟨s⟩

/-! ## Statements -/

/-- A header: the table it opens, its place, and whether it adds to an array of tables. -/
structure Header where
  path : KeyPath
  span : Span
  isArray : Bool
deriving Repr, Inhabited

/-- A statement of a TOML text. -/
inductive Statement where
  | header (header : Header)
  | assignment (path : KeyPath) (value : Value)
deriving Repr, Inhabited

/-- A header in single or double brackets. -/
def readHeader (size : Nat) (s : List Char) : Except Stuck (Header × List Char) :=
  match s with
  | '[' :: '[' :: body => do
    let (path, rest) ← readKeyPath size body
    let rest ← expectChar ']' rest
    let rest ← expectChar ']' rest
    .ok (⟨path, spanBetween size s rest, true⟩, rest)
  | '[' :: body => do
    let (path, rest) ← readKeyPath size body
    let rest ← expectChar ']' rest
    .ok (⟨path, spanBetween size s rest, false⟩, rest)
  | _ => .error ⟨s⟩

/-- One statement. -/
def readStatement (size : Nat) (s : List Char) : Except Stuck (Statement × List Char) :=
  match s with
  | '[' :: _ => do
    let (header, rest) ← readHeader size s
    .ok (.header header, rest)
  | _ => do
    let ((path, value), rest) ← readAssignment size (readValue size depthLimit) s
    .ok (.assignment path value, rest)

/-- The statements of a text, at most `fuel` of them, each on lines of its own, with the text each
starts at. -/
def readStatements (size : Nat) : Nat → List Char → Except Stuck (List (List Char × Statement))
  | 0, s => .error ⟨s⟩
  | fuel + 1, s => do
    match ← dropGap false s with
    | [] => .ok []
    | s =>
      let (statement, rest) ← readStatement size s
      let rest ← dropRestOfLine rest
      return (s, statement) :: (← readStatements size fuel rest)

end Blueprint.Toml
