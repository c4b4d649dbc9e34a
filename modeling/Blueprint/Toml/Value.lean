import Blueprint.Decimal.Binary64

/-!
# TOML values

The values of a TOML text, each with the bytes it takes in it.  Tables and arrays remember how they
came to be, which decides whether later lines may add to them.
-/

namespace Blueprint.Toml

/-- A range of byte offsets. -/
structure Span where
  start : Nat
  stop : Nat
deriving DecidableEq, Repr, Inhabited

/-- A key as it is looked up, with its place. -/
structure Key where
  text : String
  span : Span
deriving DecidableEq, Repr, Inhabited

/-- How a table came to be. -/
inductive TableOrigin where
  /-- Written between braces. -/
  | inline
  /-- Opened by a header of its own. -/
  | header
  /-- Made by a dotted key. -/
  | dotted
  /-- Made by a longer header that passes through it. -/
  | implied
deriving DecidableEq, Repr, Inhabited

/-- How an array came to be. -/
inductive ArrayOrigin where
  /-- Written between brackets. -/
  | inline
  /-- Made by headers in double brackets. -/
  | headers
deriving DecidableEq, Repr, Inhabited

/-- A value of a TOML text. -/
inductive Value where
  | string (span : Span) (text : String)
  | integer (span : Span) (value : Int)
  | float (span : Span) (value : Binary64)
  | boolean (span : Span) (value : Bool)
  /-- A date, a time or both; nothing looks inside. -/
  | moment (span : Span)
  | array (span : Span) (origin : ArrayOrigin) (items : List Value)
  | table (span : Span) (origin : TableOrigin) (entries : List (Key × Value))
deriving Repr, Inhabited

/-- The entries of a table, in no particular order. -/
abbrev Entries := List (Key × Value)

namespace Value

/-- The bytes that a value takes. -/
def span : Value → Span
  | .string span _ | .integer span _ | .float span _ | .boolean span _ | .moment span => span
  | .array span _ _ => span
  | .table span _ _ => span

end Value

/-- The entry of a key. -/
def Entries.find? (entries : Entries) (key : String) : Option (Key × Value) :=
  List.find? (fun entry => entry.1.text == key) entries

/-- The entries with another value for a key they hold. -/
def Entries.replace (entries : Entries) (key : String) (value : Value) : Entries :=
  entries.map fun entry => if entry.1.text == key then (entry.1, value) else entry

/-- The entries without a key. -/
def Entries.erase (entries : Entries) (key : String) : Entries :=
  entries.filter fun entry => !(entry.1.text == key)

/-- The least integer of 64 bits with a sign. -/
def minInteger : Int := -9223372036854775808

/-- The greatest integer of 64 bits with a sign. -/
def maxInteger : Int := 9223372036854775807

mutual

/-- Whether every number of a value fits 64 bits. -/
def Value.fits : Value → Bool
  | .integer _ n => minInteger ≤ n && n ≤ maxInteger
  | .array _ _ items => allFit items
  | .table _ _ entries => entriesFit entries
  | _ => true

/-- `Value.fits` for several values. -/
def allFit : List Value → Bool
  | [] => true
  | v :: vs => v.fits && allFit vs

/-- `Value.fits` for the values of some entries. -/
def entriesFit : List (Key × Value) → Bool
  | [] => true
  | (_, v) :: rest => v.fits && entriesFit rest

end

end Blueprint.Toml
