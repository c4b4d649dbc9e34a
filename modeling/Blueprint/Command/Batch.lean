import Blueprint.Batch.Run
import Blueprint.Command.Arguments
import Blueprint.Command.Output
import Blueprint.Settings.File

/-!
# Migrating a directory from the command line

The words of the command line go before what the settings file says.  The program ends with a
failure if a file was not migrated.
-/

namespace Blueprint.Command

/-- The command line of the program that migrates a directory. -/
def batchSpec : Spec where
  leastWords := 0
  mostWords := 2
  options :=
    [{ long := "config", short? := some 'c', takesValue := true }, { long := "sequential" },
      { long := "max-concurrency", takesValue := true, isNumber := true },
      { long := "source-extension", takesValue := true },
      { long := "target-extension", takesValue := true }, { long := "skip-validation" },
      { long := "fail-on-warnings" }, { long := "report", takesValue := true },
      { long := "dry-run" }, { long := "verbose", short? := some 'v' }, { long := "log-json" }]

/-- Settings with what a command line says in their place. -/
def applyArguments (a : Arguments) (s : Settings) : Settings :=
  { s with
    batch :=
      { sourceDir? := a.words[0]? <|> s.batch.sourceDir?
        destDir? := a.words[1]? <|> s.batch.destDir?
        sourceExtension := (a.value? "source-extension").getD s.batch.sourceExtension
        targetExtension := (a.value? "target-extension").getD s.batch.targetExtension
        parallel := s.batch.parallel && !a.hasFlag "sequential"
        maxConcurrency :=
          ((a.value? "max-concurrency").bind number?).getD s.batch.maxConcurrency }
    pipeline :=
      { s.pipeline with
        skipValidation := s.pipeline.skipValidation || a.hasFlag "skip-validation"
        failOnWarnings := s.pipeline.failOnWarnings || a.hasFlag "fail-on-warnings" } }

/-- What the migrations of a batch are asked to do. -/
def batchMigrationOptions (s : Settings) : Except Failure MigrationOptions := do
  let identifier ←
    identifierPattern (s.pipeline.identifierPattern?.getD Rule.defaultPattern)
  return {
    skipValidation := s.pipeline.skipValidation, failOnWarnings := s.pipeline.failOnWarnings,
    layout := s.layout, identifier }

/-- What the program says when it refuses its settings. -/
def refusal (failure : Failure) : Output :=
  { exitCode := 1, stderr := lines [failureLine failure] }

/-- What the program says when it cannot read its settings file. -/
def settingsRefusal (path : String) (failure : Failure) : Output :=
  { exitCode := 1
    stderr :=
      lines
        ["❌ Failed to load config file '" ++ path ++ "': " ++ failure.message,
          "💡 Make sure the file exists and is valid TOML format"] }

/-- Lists the files that would be migrated. -/
def listJobs (settings : BatchSettings) : Script Output := do
  match ← Batch.jobs settings with
  | .error failure => return .failedAt [] "failed to list source files" failure.message
  | .ok jobs =>
    return { stdout := lines (jobs.map fun job => job.source ++ " -> " ++ job.destination) }

/-- What the program says about a report. -/
def reportLines (r : Batch.Report) : List String :=
  r.outcomes.map Batch.FileOutcome.summaryLine ++
    ["📊 " ++ r.runId ++ ": " ++ toString r.successCount ++ " succeeded, " ++
      toString r.failureCount ++ " failed"]

/-- Writes a report to the file that is named for it. -/
def writeReport (r : Batch.Report) : Option String → Script (Except (String × OsFault) Unit)
  | none => return .ok ()
  | some path => do
    match ← Script.perform (.write (.ofText path) r.toJson.encode.toUTF8) with
    | .ok () => return .ok ()
    | .error fault => return .error (path, fault)

/-- Migrates the files of a batch. -/
def migrateBatch (runId : String) (machine : Batch.Machine) (reportPath? : Option String)
    (settings : BatchSettings) (options : MigrationOptions) : Script Output := do
  let pipeline := documentPipeline (diskStorage workingDirectory) options
  match ← Batch.run settings runId machine pipeline.run with
  | .error failure => return .failedAt [] "batch migration failed" failure.message
  | .ok report =>
    match ← writeReport report reportPath? with
    | .error (path, fault) =>
      return .failedAt (reportLines report) ("failed to write report to " ++ path) fault.message
    | .ok () =>
      return {
        exitCode := if report.hasFailures then 1 else 0, stdout := lines (reportLines report) }

/-- Migrates the directory that the settings name. -/
def runBatch (runId : String) (machine : Batch.Machine) (arguments : Arguments)
    (settings : Settings) : Script Output := do
  match settings.validate *> settings.batchSettings with
  | .error failure => return refusal failure
  | .ok batch =>
    match ← Batch.validate batch with
    | .error failure => return refusal failure
    | .ok () =>
      match batchMigrationOptions settings with
      | .error failure =>
        return .failedAt [] "invalid identifier pattern" failure.message
      | .ok options =>
        if arguments.hasFlag "dry-run" then listJobs batch
        else migrateBatch runId machine (arguments.value? "report") batch options

/-- The program that migrates a directory. -/
def batch (env : Settings.Environment) (runId : String) (machine : Batch.Machine)
    (words : List String) : Script (Except UsageFault Output) :=
  match parse batchSpec words with
  | .error fault => return .error fault
  | .ok arguments => do
    match ← Settings.loadOptional env (arguments.value? "config") with
    | .error failure =>
      return .ok (settingsRefusal ((arguments.value? "config").getD "") failure)
    | .ok settings =>
      return .ok (← runBatch runId machine arguments (applyArguments arguments settings))

end Blueprint.Command
