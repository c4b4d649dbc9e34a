import Blueprint.Decimal.Binary64
import Blueprint.Toml.Quoting

/-!
# TOML numbers

Integers in four bases and floats.  An underscore may stand between two digits; a decimal number has
no leading zero.
-/

namespace Blueprint.Toml

open Text (hexDigit?)

/-- The digits of a run with its underscores taken out; none if an underscore does not stand between
two characters or nothing is left. -/
def ungroup : List Char → Option (List Char)
  | [] => none
  | [c] => if c = '_' then none else some [c]
  | c :: '_' :: rest => if c = '_' then none else (ungroup rest).map (c :: ·)
  | c :: rest => if c = '_' then none else (ungroup rest).map (c :: ·)

/-- The value of digits in a base of at most sixteen. -/
def digitsValue? (base : Nat) (digits : List Char) : Option Nat :=
  digits.foldl
    (fun value c => do
      let value ← value
      let digit ← hexDigit? c
      if digit < base then some (base * value + digit) else none)
    (some 0)

/-- The value of a grouped run of digits in a base. -/
def groupedValue? (base : Nat) (s : List Char) : Option Nat :=
  (ungroup s).bind (digitsValue? base)

/-- Whether digits have a zero in front that says nothing. -/
def hasLeadingZero : List Char → Bool
  | '0' :: _ :: _ => true
  | _ => false

/-- A text without its sign, and whether that was a minus. -/
def takeSign : List Char → Bool × List Char
  | '-' :: rest => (true, rest)
  | '+' :: rest => (false, rest)
  | s => (false, s)

/-- The integer that a word spells. -/
def integerOf? (word : List Char) : Option Int :=
  match word with
  | '0' :: 'x' :: rest => (groupedValue? 16 rest).map Int.ofNat
  | '0' :: 'o' :: rest => (groupedValue? 8 rest).map Int.ofNat
  | '0' :: 'b' :: rest => (groupedValue? 2 rest).map Int.ofNat
  | _ => do
    let (negative, digits) := takeSign word
    if hasLeadingZero digits then none
    else
      let value ← groupedValue? 10 digits
      some (if negative then -Int.ofNat value else Int.ofNat value)

/-- The exponent that the word after the exponent mark spells. -/
def exponentOf? (word : List Char) : Option Int := do
  let (negative, digits) := takeSign word
  let value ← groupedValue? 10 digits
  some (if negative then -Int.ofNat value else Int.ofNat value)

/-- The float that a word spells.  It has a fraction, an exponent or both, each of at least one
digit. -/
def floatOf? (word : List Char) : Option Binary64 :=
  let (negative, rest) := takeSign word
  if rest = ['i', 'n', 'f'] then some (.infinite negative)
  else if rest = ['n', 'a', 'n'] then some .nan
  else
    let isMark := fun c : Char => c = 'e' || c = 'E'
    let mantissa := rest.takeWhile fun c => !isMark c
    let mark := rest.dropWhile fun c => !isMark c
    let whole := mantissa.takeWhile (· != '.')
    let point := mantissa.dropWhile (· != '.')
    if hasLeadingZero whole || (mark.isEmpty && point.isEmpty) then none
    else do
      let whole ← ungroup whole
      let fraction ← if point.isEmpty then some [] else ungroup (point.drop 1)
      let exponent ← if mark.isEmpty then some 0 else exponentOf? (mark.drop 1)
      let digits ← digitsValue? 10 (whole ++ fraction)
      some (.ofDecimal negative digits (exponent - fraction.length))

end Blueprint.Toml
