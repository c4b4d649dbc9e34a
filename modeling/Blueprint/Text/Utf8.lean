/-!
# Decoding UTF-8

Bytes become characters, or the first fault is reported by the index of the sequence it lies in and
the number of bytes that are certainly wrong there.  A sequence that the end of the input cuts short
is told apart from one that some byte makes impossible.
-/

namespace Blueprint.Text

/-- Why a list of bytes is not UTF-8. -/
inductive Utf8Fault where
  /-- `length` bytes from `index` on start no character. -/
  | malformed (index length : Nat)
  /-- The input ends inside the character that starts at `index`. -/
  | truncated (index : Nat)
deriving DecidableEq, Repr, Inhabited

/-- The fault in words. -/
def Utf8Fault.message : Utf8Fault → String
  | .malformed index length =>
    "invalid utf-8 sequence of " ++ toString length ++ " bytes from index " ++ toString index
  | .truncated index => "incomplete utf-8 byte sequence from index " ++ toString index

namespace Utf8

/-- Whether a byte continues a character. -/
def isTail (b : UInt8) : Bool :=
  0x80 ≤ b && b ≤ 0xBF

/-- The six bits that a continuation byte carries. -/
def tailBits (b : UInt8) : Nat :=
  b.toNat % 0x40

/-- Whether `b` may follow the first byte `a` of a character of three bytes: overlong forms and
surrogates are refused here. -/
def isSecondOfThree (a b : UInt8) : Bool :=
  if a == 0xE0 then 0xA0 ≤ b && b ≤ 0xBF
  else if a == 0xED then 0x80 ≤ b && b ≤ 0x9F
  else isTail b

/-- Whether `b` may follow the first byte `a` of a character of four bytes: overlong forms and code
points beyond the last one are refused here. -/
def isSecondOfFour (a b : UInt8) : Bool :=
  if a == 0xF0 then 0x90 ≤ b && b ≤ 0xBF
  else if a == 0xF4 then 0x80 ≤ b && b ≤ 0x8F
  else isTail b

/-- The characters of `bytes`, which start at `index` of the input. -/
def decodeFrom (index : Nat) (bytes : List UInt8) : Except Utf8Fault (List Char) :=
  match bytes with
  | [] => .ok []
  | a :: rest =>
    if a < 0x80 then
      (decodeFrom (index + 1) rest).map (Char.ofNat a.toNat :: ·)
    else if 0xC2 ≤ a && a ≤ 0xDF then
      match rest with
      | [] => .error (.truncated index)
      | b :: rest =>
        if isTail b then
          (decodeFrom (index + 2) rest).map
            (Char.ofNat (a.toNat % 0x20 * 0x40 + tailBits b) :: ·)
        else .error (.malformed index 1)
    else if 0xE0 ≤ a && a ≤ 0xEF then
      match rest with
      | [] => .error (.truncated index)
      | b :: rest =>
        if isSecondOfThree a b then
          match rest with
          | [] => .error (.truncated index)
          | c :: rest =>
            if isTail c then
              (decodeFrom (index + 3) rest).map
                (Char.ofNat (a.toNat % 0x10 * 0x1000 + tailBits b * 0x40 + tailBits c) :: ·)
            else .error (.malformed index 2)
        else .error (.malformed index 1)
    else if 0xF0 ≤ a && a ≤ 0xF4 then
      match rest with
      | [] => .error (.truncated index)
      | b :: rest =>
        if isSecondOfFour a b then
          match rest with
          | [] => .error (.truncated index)
          | c :: rest =>
            if isTail c then
              match rest with
              | [] => .error (.truncated index)
              | d :: rest =>
                if isTail d then
                  (decodeFrom (index + 4) rest).map
                    (Char.ofNat (a.toNat % 0x08 * 0x40000 + tailBits b * 0x1000 +
                      tailBits c * 0x40 + tailBits d) :: ·)
                else .error (.malformed index 3)
            else .error (.malformed index 2)
        else .error (.malformed index 1)
    else .error (.malformed index 1)

/-- The text that the bytes spell, or the first place where they are not UTF-8. -/
def decode (bytes : ByteArray) : Except Utf8Fault String :=
  (decodeFrom 0 bytes.data.toList).map String.ofList

end Utf8

end Blueprint.Text
