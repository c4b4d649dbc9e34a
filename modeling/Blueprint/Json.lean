/-!
# JSON text

Reports are JSON, written over several lines with two spaces of indentation.  The members of every
object are sorted by their names.
-/

namespace Blueprint

/-- A JSON value. -/
inductive Json where
  | null
  | number (value : Nat)
  | text (value : String)
  | array (items : List Json)
  | object (members : List (String × Json))
deriving Repr, Inhabited

namespace Json

/-- Four hexadecimal digits. -/
def hex4 (n : Nat) : List Char :=
  let digits := Nat.toDigits 16 n
  List.replicate (4 - digits.length) '0' ++ digits

/-- One character inside of a JSON string. -/
def escapeChar (c : Char) : List Char :=
  if c = '\x22' || c = '\\' then ['\\', c]
  else if c = '\n' then ['\\', 'n']
  else if c = '\r' then ['\\', 'r']
  else if c = '\t' then ['\\', 't']
  else if c = '\x08' then ['\\', 'b']
  else if c = '\x0c' then ['\\', 'f']
  else if c.toNat < 0x20 then ['\\', 'u'] ++ hex4 c.toNat
  else [c]

/-- A JSON string. -/
def encodeText (s : String) : String :=
  String.ofList ('\x22' :: s.toList.flatMap escapeChar ++ ['\x22'])

/-- The start of a line at a depth. -/
def lineStart (depth : Nat) : String :=
  "\n" ++ String.ofList (List.replicate (2 * depth) ' ')

/-- Written members between brackets, each on a line of its own. -/
def bracketed (depth : Nat) (opening closing : String) (members : List String) : String :=
  if members.isEmpty then opening ++ closing
  else
    opening ++ lineStart (depth + 1) ++
      String.intercalate ("," ++ lineStart (depth + 1)) members ++ lineStart depth ++ closing

/-- Written members with one more, in the order of their names. -/
def insertMember (new : String × String) : List (String × String) → List (String × String)
  | [] => [new]
  | member :: rest =>
    if member.1 < new.1 then member :: insertMember new rest else new :: member :: rest

mutual

/-- A value that starts on a line at a depth. -/
def encodeAt (depth : Nat) : Json → String
  | .null => "null"
  | .number n => toString n
  | .text s => encodeText s
  | .array items => bracketed depth "[" "]" (encodeItems (depth + 1) items)
  | .object members =>
    bracketed depth "\x7b" "\x7d"
      ((encodeMembers (depth + 1) members).map fun (name, value) =>
        encodeText name ++ ": " ++ value)

/-- The items of an array. -/
def encodeItems (depth : Nat) : List Json → List String
  | [] => []
  | item :: rest => encodeAt depth item :: encodeItems depth rest

/-- The members of an object, sorted. -/
def encodeMembers (depth : Nat) : List (String × Json) → List (String × String)
  | [] => []
  | (name, value) :: rest => insertMember (name, encodeAt depth value) (encodeMembers depth rest)

end

/-- The text of a value. -/
def encode (j : Json) : String :=
  encodeAt 0 j

end Json

end Blueprint
