import Blueprint.Failure
import Blueprint.Text.Blank

/-!
# Checks of settings

Each check looks at one value of a named field, and refuses it with a reason.
-/

namespace Blueprint.Check

/-- Refuses a value. -/
def refuse (field value reason : String) : Except Failure α :=
  .error (.invalidValue field value reason)

/-- A path is not empty and holds no NUL character. -/
def path (field value : String) : Except Failure Unit :=
  if value = "" then refuse field value "Path cannot be empty"
  else if value.toList.contains '\x00' then refuse field value "Path contains null bytes"
  else .ok ()

/-- An extension is not blank, does not start with a dot and holds no slash of either kind. -/
def extension (field value : String) : Except Failure Unit :=
  if (Text.trim value.toList).isEmpty then refuse field value "Extension cannot be empty"
  else if value.toList.head? = some '.' || value.toList.contains '/' ||
      value.toList.contains '\\' then
    refuse field value "Extension must be given without a leading dot or path separators"
  else .ok ()

/-- A number is not below a least one. -/
def atLeast (field : String) (value least : Nat) : Except Failure Unit :=
  if value < least then
    refuse field (toString value) ("Value must be at least " ++ toString least)
  else .ok ()

/-- A number lies between two others, both of them allowed. -/
def between (field : String) (value least greatest : Int) : Except Failure Unit :=
  if value < least ∨ greatest < value then
    refuse field (toString value)
      ("Value must be between " ++ toString least ++ " and " ++ toString greatest)
  else .ok ()

/-- A field that has to be given. -/
def given (field : String) : Option α → Except Failure α
  | some value => .ok value
  | none => .error (.missingSetting field)

end Blueprint.Check
