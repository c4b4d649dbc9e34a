/-!
# Command lines

Reading the words of a command line: options in their long form, with their value after an equals
sign or in the next word; options in their short form, several in one word; and plain words.  After
two dashes alone every word is plain.

The value of an option is looked at only when the next option or plain word comes, or at the end; so
a word that is not known is reported before a fault of the option in front of it.
-/

namespace Blueprint.Command

/-- An option of a program. -/
structure OptionSpec where
  long : String
  short? : Option Char := none
  takesValue : Bool := false
  /-- Whether its value is a number. -/
  isNumber : Bool := false
deriving DecidableEq, Repr, Inhabited

/-- The command line of a program. -/
structure Spec where
  options : List OptionSpec
  /-- How many plain words there have to be. -/
  leastWords : Nat
  /-- How many plain words there may be. -/
  mostWords : Nat
deriving Repr, Inhabited

/-- What is wrong with a command line, or asked for by it instead of a run. -/
inductive UsageFault where
  | missingWord
  | unknownWord
  | notANumber
  | missingValue
  | repeated
  | unexpectedValue
  | help
deriving DecidableEq, Repr, Inhabited

/-- The fault in words. -/
def UsageFault.message : UsageFault → String
  | .missingWord => "a required argument is missing"
  | .unknownWord => "unexpected argument"
  | .notANumber => "a number is expected"
  | .missingValue => "an option lacks its value"
  | .repeated => "an option is given more than once"
  | .unexpectedValue => "a flag takes no value"
  | .help => "help"

/-- What a command line gives. -/
structure Arguments where
  words : List String := []
  values : List (String × String) := []
  flags : List String := []
deriving DecidableEq, Repr, Inhabited

namespace Arguments

/-- The value of an option. -/
def value? (a : Arguments) (name : String) : Option String :=
  (a.values.find? (·.1 == name)).map Prod.snd

/-- Whether a flag is given. -/
def hasFlag (a : Arguments) (name : String) : Bool :=
  a.flags.contains name

end Arguments

/-- The greatest number that an option can take, one less than the power `2 ^ 64`. -/
def maxNumber : Nat := 18446744073709551615

/-- The number that a text spells: digits, with a plus sign before them if one likes. -/
def number? (text : String) : Option Nat :=
  let digits :=
    match text.toList with
    | '+' :: rest => rest
    | chars => chars
  if digits.isEmpty || !digits.all Char.isDigit then none
  else
    let value := digits.foldl (fun n c => 10 * n + (c.toNat - '0'.toNat)) 0
    if value ≤ maxNumber then some value else none

/-- A command line that is being read: what it gave so far, and the option whose value has not been
looked at yet. -/
structure Scan where
  given : Arguments := {}
  pending : Option (OptionSpec × Option String) := none
  /-- Whether every word is plain from now on. -/
  escaped : Bool := false
deriving Repr, Inhabited

namespace Scan

/-- Takes the value of an option. -/
def record (s : Scan) (option : OptionSpec) (value : String) : Except UsageFault Scan :=
  if (s.given.value? option.long).isSome then .error .repeated
  else if option.isNumber && (number? value).isNone then .error .notANumber
  else .ok { s with given.values := s.given.values ++ [(option.long, value)] }

/-- Looks at the value of the option that came last. -/
def settle (s : Scan) : Except UsageFault Scan :=
  match s.pending with
  | none => .ok s
  | some (_, none) => .error .missingValue
  | some (option, some value) => { s with pending := none }.record option value

/-- Takes a flag. -/
def flag (s : Scan) (option : OptionSpec) : Except UsageFault Scan := do
  let s ← s.settle
  if s.given.hasFlag option.long then .error .repeated
  else .ok { s with given.flags := s.given.flags ++ [option.long] }

/-- Takes an option with its value. -/
def attached (s : Scan) (option : OptionSpec) (value : String) : Except UsageFault Scan := do
  (← s.settle).record option value

/-- Takes an option whose value is the next word. -/
def await (s : Scan) (option : OptionSpec) : Except UsageFault Scan := do
  return { ← s.settle with pending := some (option, none) }

/-- Answers a call for help. -/
def help (s : Scan) : Except UsageFault Scan := do
  let _ ← s.settle
  .error .help

/-- Takes a plain word. -/
def word (spec : Spec) (s : Scan) (text : String) : Except UsageFault Scan :=
  if spec.mostWords ≤ s.given.words.length then .error .unknownWord
  else do
    let s ← s.settle
    return { s with given.words := s.given.words ++ [text] }

/-- Takes an option in its long form, without its dashes. -/
def long (spec : Spec) (s : Scan) (text : List Char) : Except UsageFault Scan :=
  let name := String.ofList (text.takeWhile (· != '='))
  let value? := (text.dropWhile (· != '=')).tail?.map String.ofList
  match spec.options.find? (·.long = name) with
  | none =>
    if name = "help" then if value?.isSome then .error .unexpectedValue else s.help
    else .error .unknownWord
  | some option =>
    match option.takesValue, value? with
    | true, some value => s.attached option value
    | true, none => s.await option
    | false, some _ => .error .unexpectedValue
    | false, none => s.flag option

/-- Takes options in their short form, without their dash.  The value of one may follow it in the
same word. -/
def short (spec : Spec) (s : Scan) : List Char → Except UsageFault Scan
  | [] => .ok s
  | c :: rest =>
    match spec.options.find? (·.short? = some c) with
    | none => if c = 'h' then s.help else .error .unknownWord
    | some option =>
      if option.takesValue then
        match rest with
        | [] => s.await option
        | '=' :: value => s.attached option (String.ofList value)
        | value => s.attached option (String.ofList value)
      else do short spec (← s.flag option) rest

/-- Takes the next word of a command line. -/
def next (spec : Spec) (s : Scan) (text : String) : Except UsageFault Scan :=
  if s.escaped then word spec s text
  else
    match text.toList with
    | ['-', '-'] => .ok { s with escaped := true }
    | '-' :: '-' :: rest => long spec s rest
    | '-' :: c :: rest => short spec s (c :: rest)
    | _ =>
      match s.pending with
      | some (option, none) => .ok { s with pending := some (option, some text) }
      | _ => word spec s text

end Scan

/-- What a command line gives. -/
def parse (spec : Spec) (words : List String) : Except UsageFault Arguments := do
  let s ← words.foldlM (Scan.next spec) {}
  let s ← s.settle
  if s.given.words.length < spec.leastWords then .error .missingWord else .ok s.given

end Blueprint.Command
