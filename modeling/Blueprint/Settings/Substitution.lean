/-!
# Variables in settings

In the text of settings a variable in braces after a dollar sign stands for its value in the
environment.  One that is not set stays as it is written, and a value is not looked at again.
-/

namespace Blueprint.Settings

/-- The values of the variables that are set. -/
abbrev Environment := String → Option String

/-- The name in braces at the start of a text, which must not be empty. -/
def bracedName? (s : List Char) : Option (List Char) :=
  match s with
  | '\x7b' :: rest =>
    let name := rest.takeWhile (· != '\x7d')
    if name.isEmpty || name.length = rest.length then none else some name
  | _ => none

/-- The text with the variables replaced, its first `skip` characters left out. -/
def substituteFrom (env : Environment) : Nat → List Char → List Char
  | _, [] => []
  | skip + 1, _ :: rest => substituteFrom env skip rest
  | 0, c :: rest =>
    if c = '$' then
      match bracedName? rest with
      | none => c :: substituteFrom env 0 rest
      | some name =>
        let written := c :: '\x7b' :: name ++ ['\x7d']
        let value := ((env (String.ofList name)).map String.toList).getD written
        value ++ substituteFrom env (name.length + 2) rest
    else c :: substituteFrom env 0 rest

/-- The text with the variables that are set replaced by their values. -/
def substitute (env : Environment) (text : List Char) : List Char :=
  substituteFrom env 0 text

/-- The names of the variables that a text mentions, its first `skip` characters left out. -/
def mentionedFrom : Nat → List Char → List String
  | _, [] => []
  | skip + 1, _ :: rest => mentionedFrom skip rest
  | 0, c :: rest =>
    match if c = '$' then bracedName? rest else none with
    | none => mentionedFrom 0 rest
    | some name => String.ofList name :: mentionedFrom (name.length + 2) rest

/-- The names of the variables that a text mentions. -/
def mentioned (text : List Char) : List String :=
  mentionedFrom 0 text

end Blueprint.Settings
