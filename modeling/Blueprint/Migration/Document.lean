import Blueprint.Document.Basic
import Blueprint.Kotlin.File
import Blueprint.Kotlin.Renderable
import Blueprint.Migration.Pipeline
import Blueprint.Pattern.Reader
import Blueprint.Rule
import Blueprint.Storage.Basic
import Blueprint.Text.Utf8

/-!
# Migrating documents into Kotlin

The pipeline that reads architecture documents from a storage, checks them by the rules, and writes
Kotlin back.
-/

namespace Blueprint

/-- What a migration is asked to do. -/
structure MigrationOptions where
  skipValidation : Bool := false
  failOnWarnings : Bool := false
  layout : Kotlin.Layout := {}
  identifier : Pattern

/-- Whether a verdict lets the migration go on, with the warnings that do not stop it.  Errors
always stop it, warnings only if they count as errors. -/
def Verdict.gate (v : Verdict) (failOnWarnings : Bool) : Except Failure (List Warning) :=
  if !v.isValid || (failOnWarnings && v.hasWarnings) then .error (.validation v.errors v.warnings)
  else .ok v.warnings

/-- The failure that a fault of a document is. -/
def Document.Fault.toFailure (source : String) (fault : Document.Fault) : Failure :=
  .parse fault.cause.message (some (.ofPosition source fault.position))

/-- The unit that the bytes of a document spell. -/
def parseBytes (source : String) (bytes : ByteArray) : Except Failure SourceUnit :=
  match Text.Utf8.decode bytes with
  | .error fault =>
    .error (.parse ("source is not valid UTF-8: " ++ fault.message) (some (.startOf source)))
  | .ok text =>
    match Document.parse text.toList with
    | .ok unit => .ok unit
    | .error fault => .error (fault.toFailure source)

/-- The code of a unit that can be written. -/
def renderChecked (layout : Kotlin.Layout) (unit : SourceUnit) : Except Failure String :=
  match unit.checkRenderable with
  | .error redeclaration => .error (.render redeclaration.message)
  | .ok () => .ok (Kotlin.renderUnit layout unit)

/-- The verdict of the rules on a unit. -/
def SourceUnit.verdict (unit : SourceUnit) (identifier : Pattern) : Verdict :=
  Rule.validate identifier unit.models unit.ports

/-- The pipeline that migrates documents of a storage. -/
def documentPipeline [Monad m] (storage : Storage m) (options : MigrationOptions) : Pipeline m where
  parse job := do
    match ← storage.read job.source with
    | .error failure => return .error failure
    | .ok bytes => return parseBytes job.source bytes
  validates := !options.skipValidation
  validate unit := return (unit.verdict options.identifier).gate options.failOnWarnings
  render unit := return renderChecked options.layout unit
  write job code := do
    match ← storage.write job.destination code.toUTF8 with
    | .error failure => return .error failure
    | .ok () => return .ok job.destination

/-- The identifier pattern of the rules that a text spells. -/
def identifierPattern (text : String) : Except Failure Pattern :=
  match Pattern.parse text with
  | .ok pattern => .ok pattern
  | .error fault => .error (.invalidValue "identifier_pattern" text (fault.message text))

end Blueprint
