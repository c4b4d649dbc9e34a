import Blueprint.Decimal.Binary64

/-!
# Shortest decimal text

A binary64 number is written with the fewest decimal digits that read back as the same number, and
of those with the ones nearest to it.
-/

namespace Blueprint.Binary64

/-- The decimals that round to one number: those between `low / den` and `high / den`, with `value /
den` the number itself and the ends included if `closed`. -/
structure Interval where
  low : Nat
  value : Nat
  high : Nat
  den : Nat
  closed : Bool
deriving Repr, Inhabited

/-- The interval around `mantissa * 2 ^ exponent`.  Below a power of two the numbers lie closer. -/
def intervalOf (mantissa : Nat) (exponent : Int) : Interval :=
  let up := Nat.pow 2 (exponent - 2).toNat
  let gapBelow := if mantissa = Nat.pow 2 mantissaBits && minExponent < exponent then 1 else 2
  { low := (4 * mantissa - gapBelow) * up
    value := 4 * mantissa * up
    high := (4 * mantissa + 2) * up
    den := Nat.pow 2 (2 - exponent).toNat
    closed := mantissa % 2 == 0 }

/-- Whether `digits * 10 ^ exponent` lies in an interval. -/
def Interval.contains (i : Interval) (digits : Nat) (exponent : Int) : Bool :=
  let x := digits * Nat.pow 10 exponent.toNat * i.den
  let unit := Nat.pow 10 (-exponent).toNat
  if i.closed then i.low * unit ≤ x && x ≤ i.high * unit
  else i.low * unit < x && x < i.high * unit

/-- The decimal exponent of the first digit of a positive quotient. -/
def firstDigitExponent (num den : Nat) : Int :=
  if den ≤ num then digitCount (num / den) - 1
  else -digitCount ((den + num - 1) / num - 1)

/-- The nearest point of the grid of the multiples of `10 ^ exponent` that lies in an interval. -/
def Interval.onGrid (i : Interval) (exponent : Int) : Option Nat :=
  let num := i.value * Nat.pow 10 (-exponent).toNat
  let den := i.den * Nat.pow 10 exponent.toNat
  let below := num / den
  let hits := [below, below + 1].filter (i.contains · exponent)
  match hits with
  | [] => none
  | [d] => some d
  | _ => some (if 2 * (num % den) ≤ den then below else below + 1)

/-- The shortest decimal of an interval that takes `count` digits or more, as digits and exponent;
`fuel` more counts are tried. -/
def Interval.shortestFrom (i : Interval) (first : Int) : Nat → Nat → Nat × Int
  | 0, count => ((i.onGrid (first + 1 - count)).getD 0, first + 1 - count)
  | fuel + 1, count =>
    match i.onGrid (first + 1 - count) with
    | some digits => (digits, first + 1 - count)
    | none => i.shortestFrom first fuel (count + 1)

/-- The shortest decimal that reads back as `mantissa * 2 ^ exponent`, as digits and exponent.
Seventeen digits always suffice.  Where the nearest point of the grid is the next power of ten, its
last zero moves into the exponent. -/
def shortest (mantissa : Nat) (exponent : Int) : Nat × Int :=
  let i := intervalOf mantissa exponent
  let (digits, exponent) := i.shortestFrom (firstDigitExponent i.value i.den) 16 1
  if digits % 10 = 0 then (digits / 10, exponent + 1) else (digits, exponent)

/-- `digits * 10 ^ exponent` without an exponent, always with a point. -/
def positional (digits : Nat) (exponent : Int) : String :=
  let text := Nat.toDigits 10 digits
  if 0 ≤ exponent then
    String.ofList (text ++ List.replicate exponent.toNat '0' ++ ['.', '0'])
  else
    let places := (-exponent).toNat
    let padded := List.replicate (places + 1 - text.length) '0' ++ text
    String.ofList
      (padded.take (padded.length - places) ++ '.' :: padded.drop (padded.length - places))

/-- How messages write a number. -/
def display : Binary64 → String
  | .nan => "NaN"
  | .infinite negative => if negative then "-inf" else "inf"
  | .finite negative mantissa exponent =>
    (if negative then "-" else "") ++
      if mantissa = 0 then "0.0"
      else
        let (digits, exponent) := shortest mantissa exponent
        positional digits exponent

end Blueprint.Binary64
