/-!
# Binary64 numbers

A decimal number is rounded to the nearest binary64 number, a tie to the even mantissa, in exact
arithmetic on natural numbers.
-/

namespace Blueprint

/-- A number of the binary64 format. -/
inductive Binary64 where
  /-- The magnitude is `mantissa * 2 ^ exponent`. -/
  | finite (negative : Bool) (mantissa : Nat) (exponent : Int)
  | infinite (negative : Bool)
  | nan
deriving DecidableEq, Repr, Inhabited

namespace Binary64

/-- The number of mantissa bits after the leading one. -/
def mantissaBits : Nat := 52

/-- The exponent of the smallest positive number. -/
def minExponent : Int := -1074

/-- The largest exponent of a full mantissa. -/
def maxExponent : Int := 971

/-- The nearest natural number to a quotient, a tie to the even one. -/
def roundDiv (num den : Nat) : Nat :=
  let q := num / den
  let r := num % den
  if den < 2 * r || (den == 2 * r && q % 2 == 1) then q + 1 else q

/-- `num / (den * 2 ^ e)` as a quotient of natural numbers. -/
def scaleDown (num den : Nat) (e : Int) : Nat × Nat :=
  (num * Nat.pow 2 (-e).toNat, den * Nat.pow 2 e.toNat)

/-- The exponent of the leading bit of a positive quotient. -/
def leadingExponent (num den : Nat) : Int :=
  let estimate : Int := num.log2 - den.log2
  let (a, b) := scaleDown num den estimate
  if a < b then estimate - 1 else estimate

/-- The nearest number to a positive quotient. -/
def ofQuotient (negative : Bool) (num den : Nat) : Binary64 :=
  let exponent := max (leadingExponent num den - mantissaBits) minExponent
  let (a, b) := scaleDown num den exponent
  let mantissa := roundDiv a b
  let (mantissa, exponent) :=
    if mantissa = Nat.pow 2 (mantissaBits + 1) then (Nat.pow 2 mantissaBits, exponent + 1)
    else (mantissa, exponent)
  if maxExponent < exponent then .infinite negative else .finite negative mantissa exponent

/-- The number of decimal digits of a natural number. -/
def digitCount (n : Nat) : Nat :=
  (Nat.toDigits 10 n).length

/-- The nearest number to `digits * 10 ^ exponent`.  Magnitudes far outside of the format are told
by their number of digits alone. -/
def ofDecimal (negative : Bool) (digits : Nat) (exponent : Int) : Binary64 :=
  if digits = 0 then .finite negative 0 0
  else
    let magnitude : Int := digitCount digits + exponent
    if 310 < magnitude then .infinite negative
    else if magnitude < -330 then .finite negative 0 0
    else
      ofQuotient negative (digits * Nat.pow 10 exponent.toNat) (Nat.pow 10 (-exponent).toNat)

end Binary64

end Blueprint
