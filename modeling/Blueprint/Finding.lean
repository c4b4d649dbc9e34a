import Blueprint.Text.Position

/-!
# Findings

What checks report about a document: errors by the rule they break, and warnings with a suggestion,
both with a place in the document if it is known.
-/

namespace Blueprint

/-- A place in a file. -/
structure Location where
  file : String
  line : Nat
  column : Nat
deriving DecidableEq, Repr, Inhabited

namespace Location

/-- The place of a file that a position denotes. -/
def ofPosition (file : String) (p : Text.Position) : Location :=
  ⟨file, p.line, p.column⟩

/-- The first place of a file. -/
def startOf (file : String) : Location :=
  ofPosition file .start

/-- A place in words. -/
def display (l : Location) : String :=
  l.file ++ ":" ++ toString l.line ++ ":" ++ toString l.column

end Location

/-- A place in parentheses, if there is one. -/
def locationSuffix : Option Location → String
  | some l => " (" ++ l.display ++ ")"
  | none => ""

/-- A broken rule. -/
structure Issue where
  rule : String
  message : String
  location? : Option Location := none
deriving DecidableEq, Repr, Inhabited

/-- An issue on one line. -/
def Issue.display (i : Issue) : String :=
  "[" ++ i.rule ++ "] " ++ i.message ++ locationSuffix i.location?

/-- Something that is allowed but doubtful. -/
structure Warning where
  message : String
  location? : Option Location := none
  suggestion? : Option String := none
deriving DecidableEq, Repr, Inhabited

/-- A warning on one line. -/
def Warning.display (w : Warning) : String :=
  w.message ++ locationSuffix w.location? ++
    match w.suggestion? with
    | some s => " - " ++ s
    | none => ""

/-- The outcome of checking a unit. -/
structure Verdict where
  isValid : Bool
  errors : List Issue := []
  warnings : List Warning := []
deriving DecidableEq, Repr, Inhabited

namespace Verdict

/-- The verdict of some findings: valid if there is no error. -/
def ofFindings (errors : List Issue) (warnings : List Warning) : Verdict :=
  { isValid := errors.isEmpty, errors, warnings }

/-- Whether something doubtful was found. -/
def hasWarnings (v : Verdict) : Bool :=
  !v.warnings.isEmpty

end Verdict

end Blueprint
