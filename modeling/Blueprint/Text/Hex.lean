/-!
# Hexadecimal digits

Numbers and characters that are written in hexadecimal digits, of either case.
-/

namespace Blueprint.Text

/-- The value of a hexadecimal digit. -/
def hexDigit? (c : Char) : Option Nat :=
  if '0' ≤ c ∧ c ≤ '9' then some (c.toNat - '0'.toNat)
  else if 'a' ≤ c ∧ c ≤ 'f' then some (c.toNat - 'a'.toNat + 10)
  else if 'A' ≤ c ∧ c ≤ 'F' then some (c.toNat - 'A'.toNat + 10)
  else none

/-- The value of a run of hexadecimal digits. -/
def hexValue? (digits : List Char) : Option Nat :=
  digits.foldl (fun value c => do return 16 * (← value) + (← hexDigit? c)) (some 0)

/-- The character of a code point written in hexadecimal digits; surrogates and numbers past the
last code point are none. -/
def codePoint? (digits : List Char) : Option Char :=
  (hexValue? digits).bind fun n => if n.isValidChar then some (Char.ofNat n) else none

end Blueprint.Text
