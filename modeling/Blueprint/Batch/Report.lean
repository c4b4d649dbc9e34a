import Blueprint.Batch.Plan
import Blueprint.Json
import Blueprint.Project

/-!
# Reports of batches

What became of every file of a batch, sorted by source, and the project of the units that were
written.
-/

namespace Blueprint

/-- How reports call a stage. -/
def Stage.toJson : Stage → Json
  | .parsing => .text "Parsing"
  | .validating => .text "Validating"
  | .rendering => .text "Rendering"
  | .writing => .text "Writing"
  | .done => .text "Done"
  | .failed kind => .object [("Failed", .text kind.label)]

namespace Batch

/-- Why a file failed. -/
structure FileFailure where
  kind : FailureKind
  message : String
deriving DecidableEq, Repr, Inhabited

/-- What became of a file. -/
structure FileOutcome where
  source : String
  destination : String
  trace : List Stage
  /-- The number of declarations that were written. -/
  declarations : Nat
  warnings : List String
  failure? : Option FileFailure
deriving DecidableEq, Repr, Inhabited

namespace FileOutcome

/-- Whether the file was migrated. -/
def isSuccess (f : FileOutcome) : Bool :=
  f.failure?.isNone

/-- The record of an outcome. -/
def ofOutcome (o : Outcome) : FileOutcome where
  source := o.job.source
  destination := o.job.destination
  trace := o.trace
  declarations := (o.unit?.map SourceUnit.declarationCount).getD 0
  warnings := o.warnings.map Warning.display
  failure? := o.failure?.map fun failure => ⟨failure.kind, failure.userMessage⟩

/-- The record of a job whose task died before it was finished. -/
def aborted (job : Job) : FileOutcome where
  source := job.source
  destination := job.destination
  trace := [.failed .io]
  declarations := 0
  warnings := []
  failure? := some ⟨.io, "migration task aborted"⟩

/-- The record on one line. -/
def summaryLine (f : FileOutcome) : String :=
  match f.failure? with
  | some failure =>
    "❌ " ++ f.source ++ " [" ++ failure.kind.label ++ "] " ++ failure.message
  | none =>
    "✅ " ++ f.source ++ " -> " ++ f.destination ++
      if f.warnings.isEmpty then "" else " (" ++ toString f.warnings.length ++ " warning(s))"

/-- The record as reports write it. -/
def toJson (f : FileOutcome) : Json :=
  .object
    [("source", .text f.source), ("destination", .text f.destination),
      ("trace", .array (f.trace.map Stage.toJson)), ("declarations", .number f.declarations),
      ("warnings", .array (f.warnings.map .text)),
      ("failure",
        match f.failure? with
        | none => .null
        | some failure =>
          .object [("kind", .text failure.kind.label), ("message", .text failure.message)])]

end FileOutcome

/-- A job of a batch after the batch. -/
inductive Completed where
  | finished (outcome : Outcome)
  /-- The task of the job died. -/
  | aborted (job : Job)
deriving DecidableEq, Repr, Inhabited

namespace Completed

/-- The record of a job. -/
def record : Completed → FileOutcome
  | .finished outcome => .ofOutcome outcome
  | .aborted job => .aborted job

/-- The outcome of a job that was migrated. -/
def success? : Completed → Option Outcome
  | .finished outcome => if outcome.isSuccess then some outcome else none
  | .aborted _ => none

end Completed

/-- The result of a batch. -/
structure Report where
  runId : String
  successCount : Nat
  failureCount : Nat
  /-- Sorted by source. -/
  outcomes : List FileOutcome
  /-- A module for each file that was migrated. -/
  project : Project
deriving Repr, Inhabited

/-- The records of some jobs, sorted by source. -/
def sortedRecords (completed : List Completed) : List FileOutcome :=
  (completed.map Completed.record).mergeSort fun a b => decide (a.source ≤ b.source)

/-- The outcomes of the jobs that were migrated, sorted by source. -/
def sortedSuccesses (completed : List Completed) : List Outcome :=
  (completed.filterMap Completed.success?).mergeSort
    fun a b => decide (a.job.source ≤ b.job.source)

/-- The module of a job that was migrated. -/
def moduleOf? (settings : BatchSettings) (o : Outcome) : Option ProjectModule :=
  o.unit?.map (.ofUnit (moduleName settings (.ofText o.job.source)))

/-- The project of the jobs that were migrated.  It is named for the source directory, and its
package is the longest that all units share. -/
def projectOf (settings : BatchSettings) (runId : String) (successes : List Outcome) : Project where
  name := settings.sourceDir.fileName?.getD "project"
  rootPackage :=
    DottedName.commonPackage
      (successes.filterMap fun o => o.unit?.map SourceUnit.package)
  modules := successes.filterMap (moduleOf? settings)
  metadata :=
    [("run_id", runId), ("source_dir", settings.sourceDir.text),
      ("target_extension", settings.targetExtension)]

/-- The report on some jobs. -/
def report (settings : BatchSettings) (runId : String) (completed : List Completed) : Report :=
  let records := sortedRecords completed
  let successCount := (records.filter FileOutcome.isSuccess).length
  { runId
    successCount
    failureCount := records.length - successCount
    outcomes := records
    project := projectOf settings runId (sortedSuccesses completed) }

namespace Report

/-- Whether a file was not migrated. -/
def hasFailures (r : Report) : Bool :=
  0 < r.failureCount

/-- What a report says beside the records of the files. -/
def summaryMembers (r : Report) : List (String × Json) :=
  [("run_id", .text r.runId), ("success_count", .number r.successCount),
    ("failure_count", .number r.failureCount),
    ("project",
      .object
        [("name", .text r.project.name), ("root_package", .text r.project.rootPackage),
          ("modules", .number r.project.allModules.length),
          ("metadata",
            .object (r.project.metadata.map fun (name, value) => (name, .text value)))])]

/-- The report as JSON. -/
def toJson (r : Report) : Json :=
  .object (r.summaryMembers ++ [("outcomes", .array (r.outcomes.map FileOutcome.toJson))])

end Report

end Batch

end Blueprint
