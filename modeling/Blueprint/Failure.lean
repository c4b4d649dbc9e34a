import Blueprint.Finding

/-!
# Failures

Why a migration did not succeed, with everything a report or the terminal shows about it.
-/

namespace Blueprint

/-- A failure of a migration. -/
inductive Failure where
  /-- The document could not be read as one. -/
  | parse (message : String) (location? : Option Location)
  /-- The unit breaks rules, or is doubtful where doubts count. -/
  | validation (errors : List Issue) (warnings : List Warning)
  /-- The unit cannot be written. -/
  | render (message : String)
  /-- Reading failed. -/
  | io (message : String)
  /-- Writing failed, or a directory could not be listed. -/
  | storage (path message : String)
  /-- The report could not be encoded. -/
  | serialization (message : String)
  /-- The settings are no TOML. -/
  | toml (message : String)
  /-- The settings have the wrong shape. -/
  | config (message : String)
  /-- A setting has a value that is not allowed. -/
  | invalidValue (field value reason : String)
  /-- A setting is missing. -/
  | missingSetting (field : String)
deriving DecidableEq, Repr, Inhabited

/-- The boundary of the pipeline that a failure comes from. -/
inductive FailureKind where
  | parse
  | validation
  | render
  | io
  | config
deriving DecidableEq, Repr, Inhabited

/-- How reports call a kind. -/
def FailureKind.label : FailureKind → String
  | .parse => "ParseFailure"
  | .validation => "ValidationFailure"
  | .render => "RenderFailure"
  | .io => "IoFailure"
  | .config => "ConfigFailure"

/-- Whose matter a failure is. -/
inductive FailureCategory where
  | input
  | architecture
  | internal
  | system
  | configuration
deriving DecidableEq, Repr, Inhabited

/-- How grave a failure is. -/
inductive Severity where
  | low
  | medium
  | high
  | critical
deriving DecidableEq, Repr, Inhabited

namespace FailureKind

/-- Whose matter failures of a kind are. -/
def category : FailureKind → FailureCategory
  | .parse => .input
  | .validation => .architecture
  | .render => .internal
  | .io => .system
  | .config => .configuration

/-- What the user can do about failures of a kind. -/
def suggestion : FailureKind → String
  | .parse => "Fix the syntax of the source file and run the migration again"
  | .validation =>
    "Resolve the reported architecture violations, or rerun with --skip-validation"
  | .render =>
    "The declaration breaks an invariant the renderer relies on; enable validation to locate it"
  | .io => "Check that the destination directory exists and is writable"
  | .config => "Check the configuration file and command line flags"

/-- The exit code of a program that ends with a failure of a kind. -/
def exitCode : FailureKind → Nat
  | .config => 1
  | .parse => 2
  | .validation => 3
  | .render => 4
  | .io => 5

end FailureKind

namespace Failure

/-- The kind of a failure. -/
def kind : Failure → FailureKind
  | .parse .. => .parse
  | .validation .. => .validation
  | .render _ => .render
  | .io _ | .storage .. | .serialization _ => .io
  | .toml _ | .config _ | .invalidValue .. | .missingSetting _ => .config

/-- Whose matter a failure is. -/
def category (e : Failure) : FailureCategory :=
  e.kind.category

/-- How grave a failure is.  Doubts alone are a light matter, and a unit that cannot be written is
the gravest. -/
def severity : Failure → Severity
  | .validation [] _ => .low
  | .validation .. | .parse .. => .medium
  | .render _ => .critical
  | _ => .high

/-- The place of a failure, if it is known. -/
def location? : Failure → Option Location
  | .parse _ location? => location?
  | .validation errors _ => errors.findSome? Issue.location?
  | _ => none

/-- The failure on one line. -/
def message : Failure → String
  | .parse message _ => "Parse error: " ++ message
  | .validation errors warnings =>
    "Validation failed with " ++ toString errors.length ++ " error(s) and " ++
      toString warnings.length ++ " warning(s)"
  | .render message => "Render error: " ++ message
  | .io message => "IO error: " ++ message
  | .storage path message => "Storage error at " ++ path ++ ": " ++ message
  | .serialization message => "Serialization error: " ++ message
  | .toml message => "TOML error: " ++ message
  | .config message => "Configuration error: " ++ message
  | .invalidValue field value reason =>
    "Invalid value '" ++ value ++ "' for " ++ field ++ ": " ++ reason
  | .missingSetting field => "Missing required configuration: " ++ field

/-- The findings of a failed validation, one on each line. -/
def findingLines : Failure → List String
  | .validation errors warnings =>
    errors.map (fun e => "\n  error: " ++ e.display) ++
      warnings.map fun w => "\n  warning: " ++ w.display
  | _ => []

/-- The failure with its place and its findings. -/
def userMessage (e : Failure) : String :=
  e.message ++
    (match e.location? with
      | some l => " at " ++ l.display
      | none => "") ++
    String.join e.findingLines

/-- What the user can do about a failure. -/
def suggestion (e : Failure) : String :=
  e.kind.suggestion

end Failure

end Blueprint
