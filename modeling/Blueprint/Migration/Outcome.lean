import Blueprint.Failure
import Blueprint.SourceUnit

/-!
# Outcomes of migrations

What became of one job: the states it went through, and either the path that was written or the
failure that stopped it.
-/

namespace Blueprint

/-- One document to migrate and where its code goes. -/
structure Job where
  source : String
  destination : String
deriving DecidableEq, Repr, Inhabited

/-- Where a migration is, or where it stopped. -/
inductive Stage where
  | parsing
  | validating
  | rendering
  | writing
  | done
  | failed (kind : FailureKind)
deriving DecidableEq, Repr, Inhabited

/-- Whether a migration goes no further. -/
def Stage.isTerminal : Stage → Bool
  | .done | .failed _ => true
  | _ => false

/-- What became of a job. -/
structure Outcome where
  job : Job
  /-- The stages the job went through, in order. -/
  trace : List Stage := []
  /-- The unit, once its code is written. -/
  unit? : Option SourceUnit := none
  warnings : List Warning := []
  written? : Option String := none
  failure? : Option Failure := none
deriving DecidableEq, Repr, Inhabited

namespace Outcome

/-- The outcome of a job that failed. -/
def failed (job : Job) (trace : List Stage) (warnings : List Warning) (failure : Failure) :
    Outcome :=
  { job, trace := trace ++ [.failed failure.kind], warnings, failure? := some failure }

/-- The outcome of a job that wrote its code. -/
def succeeded (job : Job) (trace : List Stage) (warnings : List Warning) (unit : SourceUnit)
    (written : String) : Outcome :=
  { job, trace := trace ++ [.done], warnings, unit? := some unit, written? := some written }

/-- The last stage; a job that has not started is about to be parsed. -/
def stage (o : Outcome) : Stage :=
  o.trace.getLast?.getD .parsing

/-- Whether the job is done. -/
def isSuccess (o : Outcome) : Bool :=
  o.stage = .done

/-- The kind of the failure, if there is one. -/
def failureKind? (o : Outcome) : Option FailureKind :=
  o.failure?.map Failure.kind

/-- The path that was written, or the failure that stopped the job. -/
def result (o : Outcome) : Except Failure String :=
  match o.failure?, o.written? with
  | some failure, _ => .error failure
  | none, some path => .ok path
  | none, none => .error (.storage o.job.destination "migration did not write any output")

@[simp] theorem stage_failed (job : Job) (trace : List Stage) (warnings : List Warning)
    (failure : Failure) : (failed job trace warnings failure).stage = .failed failure.kind := by
  simp [stage, failed]

@[simp] theorem stage_succeeded (job : Job) (trace : List Stage) (warnings : List Warning)
    (unit : SourceUnit) (written : String) :
    (succeeded job trace warnings unit written).stage = .done := by
  simp [stage, succeeded]

end Outcome

end Blueprint
