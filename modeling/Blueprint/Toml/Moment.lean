import Blueprint.Toml.Number

/-!
# TOML dates and times

Whether a word spells a date, a time of day, or both with or without an offset from universal time.
Seconds may be left out.
-/

namespace Blueprint.Toml

/-- The number of days of a month. -/
def daysInMonth (year month : Nat) : Nat :=
  if month = 2 then
    if year % 4 = 0 && (year % 100 != 0 || year % 400 = 0) then 29 else 28
  else if month = 4 || month = 6 || month = 9 || month = 11 then 30
  else 31

/-- The value of `count` decimal digits at the start of a text, and the rest. -/
def fixedDigits? (count : Nat) (s : List Char) : Option (Nat × List Char) :=
  let digits := s.take count
  if digits.length = count && digits.all Char.isDigit then
    (digitsValue? 10 digits).map fun value => (value, s.drop count)
  else none

/-- The text after a character that must stand at its start. -/
def dropChar? (wanted : Char) : List Char → Option (List Char)
  | c :: rest => if c = wanted then some rest else none
  | [] => none

/-- The text after a date. -/
def dropDate? (s : List Char) : Option (List Char) := do
  let (year, s) ← fixedDigits? 4 s
  let s ← dropChar? '-' s
  let (month, s) ← fixedDigits? 2 s
  let s ← dropChar? '-' s
  let (day, s) ← fixedDigits? 2 s
  if 1 ≤ month && month ≤ 12 && 1 ≤ day && day ≤ daysInMonth year month then some s else none

/-- The text after the fraction of a second that may stand at its start. -/
def dropFraction? : List Char → Option (List Char)
  | '.' :: rest =>
    if (rest.takeWhile Char.isDigit).isEmpty then none else some (rest.dropWhile Char.isDigit)
  | s => some s

/-- The text after a time of day.  A minute can have a leap second. -/
def dropTime? (s : List Char) : Option (List Char) := do
  let (hour, s) ← fixedDigits? 2 s
  let s ← dropChar? ':' s
  let (minute, s) ← fixedDigits? 2 s
  if 23 < hour || 59 < minute then none
  else
    match s with
    | ':' :: s => do
      let (second, s) ← fixedDigits? 2 s
      if 60 < second then none else dropFraction? s
    | s => some s

/-- Whether a text is an offset from universal time, or nothing. -/
def isOffset (s : List Char) : Bool :=
  match s with
  | [] => true
  | [c] => c = 'Z' || c = 'z'
  | sign :: rest =>
    (sign = '+' || sign = '-') &&
      match fixedDigits? 2 rest with
      | some (hour, ':' :: rest) =>
        match fixedDigits? 2 rest with
        | some (minute, []) => hour ≤ 23 && minute ≤ 59
        | _ => false
      | _ => false

/-- Whether a word spells a date, a time of day or both. -/
def isMoment (word : List Char) : Bool :=
  match dropDate? word with
  | some [] => true
  | some (c :: rest) =>
    (c = 'T' || c = 't' || c = ' ') && ((dropTime? rest).map isOffset).getD false
  | none => dropTime? word = some []

end Blueprint.Toml
