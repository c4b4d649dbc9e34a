import Blueprint.Command.Arguments
import Blueprint.Command.Output
import Blueprint.Migration.Document
import Blueprint.Settings.File
import Blueprint.Storage.Disk

/-!
# Migrating one document from the command line

The words of the command line are folded with a settings file, if one is named: a flag only ever
switches something on or off relative to the file.
-/

namespace Blueprint.Command

/-- The command line of the program that migrates one document. -/
def singleSpec : Spec where
  leastWords := 1
  mostWords := 1
  options :=
    [{ long := "output", short? := some 'o', takesValue := true },
      { long := "config", short? := some 'c', takesValue := true },
      { long := "skip-validation" }, { long := "fail-on-warnings" },
      { long := "indent-width", takesValue := true, isNumber := true },
      { long := "no-trailing-commas" }, { long := "no-inline-value-classes" },
      { long := "no-file-header" }, { long := "target-extension", takesValue := true },
      { long := "verbose", short? := some 'v' }, { long := "log-json" }]

/-- What the program that migrates one document is asked to do. -/
structure SingleOptions where
  input : String
  output? : Option String := none
  config? : Option String := none
  skipValidation : Bool := false
  failOnWarnings : Bool := false
  indentWidth? : Option Nat := none
  noTrailingCommas : Bool := false
  noInlineValueClasses : Bool := false
  noFileHeader : Bool := false
  targetExtension : String := "kt"
  verbose : Bool := false
  logJson : Bool := false
  /-- Known once the settings file is read. -/
  identifierPattern? : Option String := none
  /-- Known once the settings file is read. -/
  layout : Kotlin.Layout := {}
deriving DecidableEq, Repr, Inhabited

namespace SingleOptions

/-- The options that a command line gives. -/
def ofArguments (a : Arguments) : SingleOptions where
  input := a.words.head?.getD ""
  output? := a.value? "output"
  config? := a.value? "config"
  skipValidation := a.hasFlag "skip-validation"
  failOnWarnings := a.hasFlag "fail-on-warnings"
  indentWidth? := (a.value? "indent-width").bind number?
  noTrailingCommas := a.hasFlag "no-trailing-commas"
  noInlineValueClasses := a.hasFlag "no-inline-value-classes"
  noFileHeader := a.hasFlag "no-file-header"
  targetExtension := (a.value? "target-extension").getD "kt"
  verbose := a.hasFlag "verbose"
  logJson := a.hasFlag "log-json"

/-- The options folded with settings. -/
def fold (o : SingleOptions) (s : Settings) : SingleOptions :=
  { o with
    skipValidation := o.skipValidation || s.pipeline.skipValidation
    failOnWarnings := o.failOnWarnings || s.pipeline.failOnWarnings
    identifierPattern? := s.pipeline.identifierPattern?
    layout :=
      { indentWidth := o.indentWidth?.getD s.layout.indentWidth
        trailingCommas := s.layout.trailingCommas && !o.noTrailingCommas
        inlineValueClasses := s.layout.inlineValueClasses && !o.noInlineValueClasses
        fileHeader := s.layout.fileHeader && !o.noFileHeader } }

/-- The options folded with their settings file. -/
def resolve (env : Settings.Environment) (o : SingleOptions) :
    Script (Except Failure SingleOptions) := do
  match ← Settings.loadOptional env o.config? with
  | .error failure => return .error failure
  | .ok settings => return .ok (o.fold settings)

/-- Where the code goes: to the path that is asked for, or next to the document. -/
def outputPath (o : SingleOptions) : Path :=
  match o.output? with
  | some output => .ofText output
  | none => (Path.ofText o.input).withExtension o.targetExtension

/-- `outputPath`; none if it takes a target extension that holds a slash. -/
def outputPath? (o : SingleOptions) : Option Path :=
  match o.output? with
  | some output => some (.ofText output)
  | none => (Path.ofText o.input).withExtension? o.targetExtension

/-- Refuses options with a value that is not allowed. -/
def validate (o : SingleOptions) : Except Failure Unit := do
  Check.path "input" o.input
  o.output?.forM (Check.path "output")
  Check.extension "target_extension" o.targetExtension
  Check.between "indent_width" o.layout.indentWidth Settings.indentWidths.1
    Settings.indentWidths.2

/-- The job that is asked for. -/
def job (o : SingleOptions) : Job :=
  { source := o.input, destination := o.outputPath.text }

/-- What the migration is asked to do. -/
def migrationOptions (o : SingleOptions) : Except Failure MigrationOptions := do
  let identifier ← identifierPattern (o.identifierPattern?.getD Rule.defaultPattern)
  return {
    skipValidation := o.skipValidation, failOnWarnings := o.failOnWarnings, layout := o.layout,
    identifier }

end SingleOptions

/-- What the program says about an outcome. -/
def outcomeOutput (outcome : Outcome) : Output :=
  let warnings := outcome.warnings.map fun w => "⚠️  " ++ w.display
  match outcome.result with
  | .error failure => .failed warnings failure
  | .ok path =>
    { stdout :=
        lines
          (warnings ++
            ["✅ Migration completed successfully!", "📁 Output saved to: " ++ path]) }

/-- Migrates the document that the options name. -/
def runSingle (env : Settings.Environment) (options : SingleOptions) : Script Output := do
  match ← options.resolve env with
  | .error failure => return .failed [] failure
  | .ok options =>
    match options.validate *> options.migrationOptions with
    | .error failure => return .failed [] failure
    | .ok migration =>
      let pipeline := documentPipeline (diskStorage workingDirectory) migration
      return outcomeOutput (← pipeline.run options.job)

/-- The program that migrates one document. -/
def single (env : Settings.Environment) (words : List String) :
    Script (Except UsageFault Output) :=
  match parse singleSpec words with
  | .error fault => return .error fault
  | .ok arguments => return .ok (← runSingle env (.ofArguments arguments))

end Blueprint.Command
