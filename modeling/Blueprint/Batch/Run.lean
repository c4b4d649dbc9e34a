import Blueprint.Batch.Report
import Blueprint.Migration.Document
import Blueprint.Storage.Disk

/-!
# Running a batch

Every job of a batch is migrated on its own: a job that fails stops no other.  The jobs run one
after the other, or side by side: then each of them is a script of its own, and a schedule picks
whose operation comes next.
-/

namespace Blueprint.Batch

/-- What a migrating task leaves behind; nothing if it died. -/
def completion (job : Job) : Option Outcome → Completed
  | some outcome => .finished outcome
  | none => .aborted job

/-- Migrates jobs one after the other. -/
def runSequential [Monad m] (migrate : Job → m Outcome) (jobs : List Job) : m (List Completed) :=
  jobs.mapM fun job => return .finished (← migrate job)

/-! ## Tasks side by side -/

/-- A task of a parallel run. -/
inductive Task (α : Type) where
  | waiting (script : Script α)
  | running (script : Script α)

namespace Task

/-- What is left to do of a task. -/
def script : Task α → Script α
  | .waiting script => script
  | .running script => script

/-- Whether a task has started and is not done. -/
def isActive : Task α → Bool
  | .running (.step ..) => true
  | _ => false

end Task

/-- Lets the task at an index do its next operation.  A task that waits starts only while fewer than
`limit` tasks are active. -/
def turn (limit : Nat) (tasks : List (Task α)) (index : Nat) : Script (List (Task α)) :=
  match tasks[index]? with
  | some (.waiting script) =>
    return if tasks.countP Task.isActive < max limit 1 then tasks.set index (.running script)
      else tasks
  | some (.running (.step op next)) =>
    return tasks.set index (.running (next (← Script.perform op)))
  | some (.running (.done _)) | none => return tasks

/-- Runs scripts side by side.  Each entry of the schedule lets one of them do one operation; what
the schedule leaves undone is done at its end. -/
def sideBySide (limit : Nat) (schedule : List Nat) (scripts : List (Script α)) :
    Script (List α) := do
  let tasks ← schedule.foldlM (turn limit) (scripts.map .waiting)
  tasks.mapM Task.script

/-- The results of scripts side by side on a tree, and the tree they leave. -/
def runScheduled (limit : Nat) (schedule : List Nat) (scripts : List (Script α)) (t : FileTree) :
    List α × FileTree :=
  (sideBySide limit schedule scripts).run t

/-- The outcomes that tasks hand in, each with the index of its task.  A task that died hands in
nothing. -/
def arrivals (outcomes : List (Option Outcome)) : List (Nat × Outcome) :=
  outcomes.zipIdx.filterMap fun (outcome?, index) => outcome?.map (index, ·)

/-- What jobs leave behind, in the order of the jobs, when their tasks hand in their outcomes in the
order of the second list. -/
def collect (jobs : List Job) (arrived : List (Nat × Outcome)) : List Completed :=
  let slots := arrived.foldl (fun slots (index, outcome) => slots.set index (some outcome))
    (jobs.map fun _ => none)
  (jobs.zip slots).map fun (job, slot) => completion job slot

/-- What a parallel run leaves to the machine: whose turn it is, and which tasks die. -/
structure Machine where
  schedule : List Nat := []
  dies : Job → Bool := fun _ => false

/-- The task of a job. -/
def Machine.task (machine : Machine) (migrate : Job → Script Outcome) (job : Job) :
    Script (Option Outcome) :=
  if machine.dies job then return none else return some (← migrate job)

/-- Migrates jobs side by side. -/
def runParallel (limit : Nat) (machine : Machine) (migrate : Job → Script Outcome)
    (jobs : List Job) : Script (List Completed) := do
  let outcomes ← sideBySide limit machine.schedule (jobs.map (machine.task migrate))
  return collect jobs (arrivals outcomes)

/-! ## The whole batch -/

/-- The jobs of a batch, run as its settings say, and the report on them. -/
def run (settings : BatchSettings) (runId : String) (machine : Machine)
    (migrate : Job → Script Outcome) : Script (Except Failure Report) := do
  match ← jobs settings with
  | .error failure => return .error failure
  | .ok jobs =>
    let completed ←
      if settings.parallel then runParallel settings.maxConcurrency machine migrate jobs
      else runSequential migrate jobs
    return .ok (report settings runId completed)

end Blueprint.Batch
