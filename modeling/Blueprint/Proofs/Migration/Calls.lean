import Blueprint.Migration.Pipeline
import Mathlib

/-!
# The calls of a run

A run of a pipeline reports on itself: its outcome holds a trace, the warnings, and either a path or
a failure.  What the run really did are the calls of the pipeline's steps.  `Pipeline.logged` is the
same pipeline with steps that also keep a log of their calls, and `run_recounts_calls` says that the
outcome agrees with that log in every particular, whatever the steps answer.

Nothing is assumed of the monad in which the steps are taken but its laws, so the steps may read and
change a state, be interrupted, or have several answers.  `SatisfiesM` speaks of all results that a
run can come to.  (No part of Mathlib brings it in but the whole, hence the wide import.)

The proof goes along the run.  As long as every call succeeds the run is `Underway`, and
`Underway.concat` is the step from one call to the next.  A run ends in one of two ways,
`Underway.recounts_failed` and `Underway.recounts_succeeded`.
-/

namespace Blueprint

/-- A call of a step: what the step was given, and what it answered. -/
inductive Call where
  | parse (job : Job) (answer : Except Failure SourceUnit)
  | validate (unit : SourceUnit) (answer : Except Failure (List Warning))
  | render (unit : SourceUnit) (answer : Except Failure String)
  | write (job : Job) (code : String) (answer : Except Failure String)

namespace Call

/-- The stage of a run in which the step is called. -/
def stage : Call → Stage
  | .parse .. => .parsing
  | .validate .. => .validating
  | .render .. => .rendering
  | .write .. => .writing

/-- The failure that the step answered, if it did not succeed. -/
def failure? : Call → Option Failure
  | .parse _ (.error failure) | .validate _ (.error failure) => some failure
  | .render _ (.error failure) | .write _ _ (.error failure) => some failure
  | _ => none

/-- Whether the step was given the job and what the calls before it answered. -/
def Given (job : Job) (earlier : List Call) : Call → Prop
  | .parse given _ => given = job
  | .validate unit _ => Call.parse job (.ok unit) ∈ earlier
  | .render unit _ => Call.parse job (.ok unit) ∈ earlier
  | .write given code _ => given = job ∧ ∃ unit, Call.render unit (.ok code) ∈ earlier

lemma isTerminal_stage (call : Call) : call.stage.isTerminal = false := by
  cases call <;> rfl

end Call

/-! ## Keeping a log -/

section Logged

variable {m : Type → Type} [Monad m]

/-- Takes a step and adds its call to the log. -/
def noted {α : Type} (call : α → Call) (step : m α) : StateT (List Call) m α := fun log => do
  let answer ← step
  return (answer, log ++ [call answer])

/-- The pipeline whose steps keep a log of their calls. -/
@[simps]
def Pipeline.logged (p : Pipeline m) : Pipeline (StateT (List Call) m) where
  parse job := noted (.parse job) (p.parse job)
  validates := p.validates
  validate unit := noted (.validate unit) (p.validate unit)
  render unit := noted (.render unit) (p.render unit)
  write job code := noted (.write job code) (p.write job code)

variable [LawfulMonad m]

lemma run_noted_bind {α β : Type} (call : α → Call) (step : m α)
    (rest : α → StateT (List Call) m β) (log : List Call) :
    (noted call step >>= rest).run log =
      step >>= fun answer => (rest answer).run (log ++ [call answer]) := by
  rw [StateT.run_bind]
  simp [noted, StateT.run]

/-- The log does not show in the outcome of a run. -/
lemma fst_run_logged (p : Pipeline m) (job : Job) (log : List Call) :
    Prod.fst <$> (p.logged.run job).run log = p.run job := by
  have hfinish : ∀ trace warnings unit log,
      Prod.fst <$> (p.logged.finish job trace warnings unit).run log =
        p.finish job trace warnings unit := by
    intro trace warnings unit log
    simp only [Pipeline.finish, Pipeline.logged_render, Pipeline.logged_write, run_noted_bind,
      map_bind]
    refine bind_congr fun rendered => ?_
    cases rendered with
    | error failure => simp
    | ok code =>
      simp only [run_noted_bind, map_bind]
      refine bind_congr fun written => ?_
      cases written <;> simp
  rw [Pipeline.run, Pipeline.run]
  simp only [Pipeline.logged_parse, Pipeline.logged_validates, Pipeline.logged_validate,
    run_noted_bind, map_bind]
  refine bind_congr fun parsed => ?_
  cases parsed with
  | error failure => simp
  | ok unit =>
    by_cases hvalidates : p.validates = true
    · simp only [if_pos hvalidates, run_noted_bind, map_bind]
      refine bind_congr fun judged => ?_
      cases judged with
      | error failure => simp
      | ok warnings => exact hfinish ..
    · simp only [if_neg hvalidates]
      exact hfinish ..

end Logged

/-! ## What an outcome says about the calls -/

/-- The stages of a run that meets no failure. -/
def plannedStages (validates : Bool) : List Stage :=
  (if validates then [Stage.parsing, .validating] else [Stage.parsing]) ++
    [Stage.rendering, .writing]

/-- The steps are called in order and none twice, each only after all before it succeeded, and each
with what those answered. -/
structure InOrder (validates : Bool) (job : Job) (log : List Call) : Prop where
  stages : log.map Call.stage <+: plannedStages validates
  earlier : ∀ before call after, log = before ++ call :: after →
    (∀ c ∈ before, c.failure? = none) ∧ call.Given job before

/-- The warnings are those of the call that validated the unit, if there was one. -/
structure Warned (log : List Call) (warnings : List Warning) : Prop where
  validated : ∀ unit answer, Call.validate unit (.ok answer) ∈ log → warnings = answer
  unvalidated : (∀ unit answer, Call.validate unit (.ok answer) ∉ log) → warnings = []

/-- What the outcome of a run says agrees with the calls that the run made. -/
structure Recounts (validates : Bool) (job : Job) (log : List Call) (o : Outcome) : Prop where
  job_eq : o.job = job
  inOrder : InOrder validates job log
  /-- Only a failure keeps a run from taking all steps. -/
  complete : (∀ call ∈ log, call.failure? = none) → log.map Call.stage = plannedStages validates
  /-- The trace has one terminal stage, the last. -/
  terminal : o.trace.filter Stage.isTerminal = [o.stage]
  /-- Once the code is written the trace ends with `done`. -/
  done : ∀ code path, Call.write job code (.ok path) ∈ log →
    o.trace = log.map Call.stage ++ [Stage.done]
  /-- Else a step failed, and the trace ends with the kind of its failure. -/
  failed : (∀ code path, Call.write job code (.ok path) ∉ log) →
    ∃ call ∈ log, ∃ failure, call.failure? = some failure ∧ o.failure? = some failure ∧
      o.trace = log.map Call.stage ++ [Stage.failed failure.kind]
  /-- The signs of success agree. -/
  success : List.TFAE [o.isSuccess = true, o.unit?.isSome = true, o.written?.isSome = true,
    o.failure? = none, ∃ code path, Call.write job code (.ok path) ∈ log ∧ o.result = .ok path]
  unit : ∀ unit, o.unit? = some unit → Call.parse job (.ok unit) ∈ log
  written : ∀ path, o.written? = some path → ∃ code, Call.write job code (.ok path) ∈ log
  warned : Warned log o.warnings

/-! ## Along a run -/

/-- A run in which every call so far has succeeded, with the stages it went through. -/
structure Underway (validates : Bool) (job : Job) (log : List Call) (trace : List Stage) :
    Prop where
  inOrder : InOrder validates job log
  succeeded : ∀ call ∈ log, call.failure? = none
  stages : log.map Call.stage = trace

section Along

variable {validates : Bool} {job : Job} {log : List Call} {trace : List Stage} {call : Call}
  {warnings : List Warning}

lemma underway_nil : Underway validates job [] [] :=
  ⟨⟨List.nil_prefix, by simp⟩, by simp, rfl⟩

lemma Underway.stages_concat (h : Underway validates job log trace) (call : Call) :
    (log ++ [call]).map Call.stage = trace ++ [call.stage] := by
  simp [h.stages]

/-- The next call of the plan keeps the order, whether it succeeds or not. -/
lemma Underway.inOrder_concat (h : Underway validates job log trace) (call : Call)
    (hnext : trace ++ [call.stage] <+: plannedStages validates) (hgiven : call.Given job log) :
    InOrder validates job (log ++ [call]) := by
  refine ⟨h.stages_concat call ▸ hnext, ?_⟩
  intro before c after hsplit
  rcases List.eq_nil_or_concat after with rfl | ⟨init, last, rfl⟩
  · obtain ⟨rfl, rfl⟩ : log = before ∧ call = c := by simpa using hsplit
    exact ⟨h.succeeded, hgiven⟩
  · have hconcat : log ++ [call] = (before ++ c :: init) ++ [last] := by simpa using hsplit
    exact h.inOrder.earlier before c init (List.append_inj_left' hconcat rfl)

/-- A run goes on after a call that succeeds. -/
lemma Underway.concat (h : Underway validates job log trace) (call : Call)
    (hnext : trace ++ [call.stage] <+: plannedStages validates) (hgiven : call.Given job log)
    (hsuccess : call.failure? = none) :
    Underway validates job (log ++ [call]) (trace ++ [call.stage]) := by
  refine ⟨h.inOrder_concat call hnext hgiven, ?_, h.stages_concat call⟩
  intro c hc
  rcases List.mem_append.1 hc with hc | hc
  · exact h.succeeded c hc
  · rw [List.mem_singleton.1 hc]
    exact hsuccess

/-- Calls are made in stages that are not terminal. -/
lemma Underway.filter_isTerminal (h : Underway validates job log trace) (call : Call) {last : Stage}
    (hlast : last.isTerminal = true) :
    (trace ++ [call.stage] ++ [last]).filter Stage.isTerminal = [last] := by
  have hcalls : ((log ++ [call]).map Call.stage).filter Stage.isTerminal = [] := by
    simp [Call.isTerminal_stage]
  rw [← h.stages_concat, List.filter_append, hcalls]
  simp [hlast]

/-- Writing is the last stage of the plan, so nothing is written before it. -/
lemma writing_not_mem (hnext : trace ++ [call.stage] <+: plannedStages validates) :
    Stage.writing ∉ trace := by
  obtain ⟨rest, hplan⟩ := hnext
  intro hmem
  have hcount : (plannedStages validates).idxOf .writing + 1 =
      (plannedStages validates).length := by
    cases validates <;> decide
  rw [← hplan, List.append_assoc, List.idxOf_append_of_mem hmem] at hcount
  have hindex := List.idxOf_lt_length_of_mem hmem
  simp only [List.length_append, List.length_singleton] at hcount
  omega

lemma Warned.concat (h : Warned log warnings) (hcall : call.stage ≠ .validating) :
    Warned (log ++ [call]) warnings := by
  have hmem : ∀ unit answer, Call.validate unit (.ok answer) ∈ log ++ [call] ↔
      Call.validate unit (.ok answer) ∈ log := by
    intro unit answer
    have hne : Call.validate unit (.ok answer) ≠ call := by
      rintro rfl
      exact hcall rfl
    simp [hne]
  constructor
  · intro unit answer hanswer
    exact h.validated unit answer ((hmem unit answer).1 hanswer)
  · intro hnone
    exact h.unvalidated fun unit answer hanswer => hnone unit answer ((hmem unit answer).2 hanswer)

/-- A run ends with the call that fails. -/
lemma Underway.recounts_failed (h : Underway validates job log trace) (call : Call)
    (hnext : trace ++ [call.stage] <+: plannedStages validates) (hgiven : call.Given job log)
    {failure : Failure} (hfailure : call.failure? = some failure)
    (hwarned : Warned (log ++ [call]) warnings) :
    Recounts validates job (log ++ [call])
      (.failed job (trace ++ [call.stage]) warnings failure) := by
  have hlast : call ∈ log ++ [call] := by simp
  have hunwritten : ∀ code path, Call.write job code (.ok path) ∉ log ++ [call] := by
    intro code path hmem
    rcases List.mem_append.1 hmem with hmem | hmem
    · exact writing_not_mem hnext (h.stages ▸ List.mem_map_of_mem (f := Call.stage) hmem)
    · rw [← List.mem_singleton.1 hmem] at hfailure
      cases hfailure
  refine
    { job_eq := rfl
      inOrder := h.inOrder_concat call hnext hgiven
      complete := fun hsuccess => ?_
      terminal := ?_
      done := fun code path hmem => absurd hmem (hunwritten code path)
      failed := fun _ => ⟨call, hlast, failure, hfailure, rfl, ?_⟩
      success := ?_
      unit := fun unit hunit => by cases hunit
      written := fun path hpath => by cases hpath
      warned := hwarned }
  · rw [hsuccess call hlast] at hfailure
    cases hfailure
  · rw [Outcome.stage_failed]
    exact h.filter_isTerminal call rfl
  · rw [h.stages_concat]
    rfl
  · refine List.tfae_of_forall False _ ?_
    simp only [List.forall_mem_cons, Outcome.isSuccess, Outcome.stage_failed]
    simp [Outcome.result, Outcome.failed]

/-- A run ends with the call that writes the code. -/
lemma Underway.recounts_succeeded (h : Underway validates job log trace)
    (hplan : trace ++ [Stage.writing] = plannedStages validates) {unit : SourceUnit}
    {code path : String} (hparsed : Call.parse job (.ok unit) ∈ log)
    (hrendered : Call.render unit (.ok code) ∈ log)
    (hwarned : Warned log warnings) :
    Recounts validates job (log ++ [Call.write job code (.ok path)])
      (.succeeded job (trace ++ [Stage.writing]) warnings unit path) := by
  have hlast : Call.write job code (.ok path) ∈ log ++ [Call.write job code (.ok path)] := by simp
  have hnext : trace ++ [Stage.writing] <+: plannedStages validates := ⟨[], by simpa using hplan⟩
  refine
    { job_eq := rfl
      inOrder := h.inOrder_concat _ hnext ⟨rfl, unit, hrendered⟩
      complete := fun _ => (h.stages_concat _).trans hplan
      terminal := ?_
      done := fun _ _ _ => ?_
      failed := fun hnone => absurd hlast (hnone code path)
      success := ?_
      unit := ?_
      written := ?_
      warned := hwarned.concat (by simp [Call.stage]) }
  · rw [Outcome.stage_succeeded]
    exact h.filter_isTerminal (.write job code (.ok path)) rfl
  · rw [h.stages_concat]
    rfl
  · refine List.tfae_of_forall True _ ?_
    simp only [List.forall_mem_cons, Outcome.isSuccess, Outcome.stage_succeeded]
    simp [Outcome.result, Outcome.succeeded]
  · rintro u hu
    cases hu
    exact List.mem_append_left _ hparsed
  · rintro p hp
    cases hp
    exact ⟨code, hlast⟩

end Along

/-! ## Whole runs -/

section Runs

variable {m : Type → Type} [Monad m] [LawfulMonad m] (p : Pipeline m) (job : Job)

lemma finish_recounts {log : List Call} {trace : List Stage} {warnings : List Warning}
    {unit : SourceUnit} (h : Underway p.validates job log trace)
    (hplan : trace ++ [Stage.rendering, .writing] = plannedStages p.validates)
    (hparsed : Call.parse job (.ok unit) ∈ log) (hwarned : Warned log warnings) :
    SatisfiesM (fun r => Recounts p.validates job r.2 r.1)
      ((p.logged.finish job trace warnings unit).run log) := by
  have hrender : trace ++ [Stage.rendering] <+: plannedStages p.validates :=
    ⟨[Stage.writing], by simpa using hplan⟩
  have hwrite : trace ++ [Stage.rendering] ++ [Stage.writing] = plannedStages p.validates := by
    simpa using hplan
  simp only [Pipeline.finish, Pipeline.logged_render, Pipeline.logged_write, run_noted_bind]
  refine SatisfiesM.trivial.bind fun rendered _ => ?_
  have hwarned' : Warned (log ++ [Call.render unit rendered]) warnings :=
    hwarned.concat (by simp [Call.stage])
  cases rendered with
  | error failure =>
    exact SatisfiesM.pure (h.recounts_failed (.render unit _) hrender hparsed rfl hwarned')
  | ok code =>
    have h' := h.concat (.render unit (.ok code)) hrender hparsed rfl
    have hparsed' : Call.parse job (.ok unit) ∈ log ++ [Call.render unit (.ok code)] := by
      simp [hparsed]
    have hrendered : Call.render unit (.ok code) ∈ log ++ [Call.render unit (.ok code)] := by simp
    simp only [run_noted_bind]
    refine SatisfiesM.trivial.bind fun written _ => ?_
    cases written with
    | error failure =>
      refine SatisfiesM.pure ?_
      have hfailed := h'.recounts_failed (.write job code (.error failure))
        ⟨[], by simpa [Call.stage] using hwrite⟩ ⟨rfl, unit, hrendered⟩ rfl
        (hwarned'.concat (by simp [Call.stage]))
      simpa [Call.stage] using hfailed
    | ok path =>
      refine SatisfiesM.pure ?_
      simpa [Call.stage] using h'.recounts_succeeded hwrite hparsed' hrendered hwarned'

/-- **Outcomes recount the calls of their runs.**  Keeping a log changes nothing about a run, and
what the outcome says agrees with the log: the steps are called in order, each at most once, after
the others succeeded and with what they answered; the trace is the stages of the calls and one
terminal stage; the signs of success agree with each other; and the warnings are those of the
validation. -/
theorem run_recounts_calls :
    Prod.fst <$> (p.logged.run job).run [] = p.run job ∧
      SatisfiesM (fun r => Recounts p.validates job r.2 r.1) ((p.logged.run job).run []) := by
  refine ⟨fst_run_logged p job [], ?_⟩
  have hstart : [] ++ [Stage.parsing] <+: plannedStages p.validates := by
    cases p.validates <;> decide
  rw [Pipeline.run]
  simp only [Pipeline.logged_parse, Pipeline.logged_validates, Pipeline.logged_validate,
    run_noted_bind]
  refine SatisfiesM.trivial.bind fun parsed _ => ?_
  have hwarned : Warned [Call.parse job parsed] [] := ⟨by simp, by simp⟩
  cases parsed with
  | error failure =>
    exact SatisfiesM.pure (underway_nil.recounts_failed (.parse job _) hstart rfl rfl hwarned)
  | ok unit =>
    have hparsed := underway_nil.concat (.parse job (.ok unit)) hstart rfl rfl
    by_cases hvalidates : p.validates = true
    · have hnext : [Stage.parsing] ++ [Stage.validating] <+: plannedStages p.validates := by
        rw [hvalidates]
        decide
      have hplan : [Stage.parsing, .validating] ++ [Stage.rendering, .writing] =
          plannedStages p.validates := by
        rw [hvalidates]
        rfl
      simp only [if_pos hvalidates, run_noted_bind]
      refine SatisfiesM.trivial.bind fun judged _ => ?_
      have hgiven : Call.parse job (.ok unit) ∈ [Call.parse job (.ok unit)] := by simp
      cases judged with
      | error failure =>
        refine SatisfiesM.pure ?_
        exact hparsed.recounts_failed (.validate unit (.error failure)) hnext hgiven rfl
          ⟨by simp, by simp⟩
      | ok warnings =>
        have hjudged := hparsed.concat (.validate unit (.ok warnings)) hnext hgiven rfl
        exact finish_recounts p job hjudged hplan (by simp) ⟨by simp, by simp⟩
    · have hplan : [Stage.parsing] ++ [Stage.rendering, .writing] = plannedStages p.validates := by
        simp [plannedStages, hvalidates]
      simp only [if_neg hvalidates]
      exact finish_recounts p job hparsed hplan (by simp) hwarned

/-- The destination is read-only: all four steps are called, the last one fails, and the outcome
keeps the warning of the validation though nothing is written. -/
theorem run_recounts_calls_readOnly :
    let doubt : Warning := ⟨"Port Empty has no methods", none, none⟩
    let p : Pipeline Id :=
      { parse := fun job => .ok { package := job.source }
        validates := true
        validate := fun _ => .ok [doubt]
        render := fun unit => .ok unit.package
        write := fun job _ => .error (.storage job.destination "read-only") }
    let job : Job := ⟨"user", "out/user.kt"⟩
    let log := ((p.logged.run job).run []).2
    log.map Call.stage = [Stage.parsing, .validating, .rendering, .writing] ∧
      p.run job = .failed job (log.map Call.stage) [doubt] (.storage "out/user.kt" "read-only") ∧
      Recounts true job log (p.run job) := by
  intro doubt p job log
  have hrecounts := SatisfiesM_Id_eq.1 (run_recounts_calls p job).2
  exact ⟨rfl, rfl, hrecounts⟩

end Runs

end Blueprint
