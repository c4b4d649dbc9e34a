import Blueprint.Migration.Document
import Blueprint.Storage.Memory
import Mathlib.Data.List.Basic

/-!
# What a migration writes

A job touches its storage twice: it reads the source first and writes the destination last.  All
that lies between is a function of the bytes that were read.  `prepare` is that function, and
`run_documentPipeline` says of every storage that a job is reading, `prepare` and, if that comes to
code, writing.  What a job does to a storage is then read off the two operations.

For files in memory the answer is `migration_changes_only_what_it_reports`: at every job of a run,
the files change at most at the destination, not at all unless the job is done, and a job that is
done leaves exactly the code of the unit that its source spelled when the job started.
-/

namespace Blueprint

/-! ## Between reading and writing -/

/-- A document that is ready to be written. -/
structure Prepared where
  /-- The stages up to the one that writes. -/
  trace : List Stage
  warnings : List Warning
  unit : SourceUnit
  code : String

/-- The outcome once the code is written, or could not be. -/
def Prepared.conclude (p : Prepared) (job : Job) : Except Failure Unit → Outcome
  | .error failure => .failed job p.trace p.warnings failure
  | .ok () => .succeeded job p.trace p.warnings p.unit job.destination

namespace MigrationOptions

variable (options : MigrationOptions)

/-- The stages before the code is made. -/
def opening : List Stage :=
  if options.skipValidation then [.parsing] else [.parsing, .validating]

/-- The warnings that do not stop the migration of a unit. -/
def judge (unit : SourceUnit) : Except Failure (List Warning) :=
  if options.skipValidation then .ok []
  else (unit.verdict options.identifier).gate options.failOnWarnings

/-- What the bytes of a source come to: code to write, or the outcome of a job that stops short. -/
def prepare (job : Job) (bytes : ByteArray) : Except Outcome Prepared :=
  match parseBytes job.source bytes with
  | .error failure => .error (.failed job [.parsing] [] failure)
  | .ok unit =>
    match options.judge unit with
    | .error failure => .error (.failed job options.opening [] failure)
    | .ok warnings =>
      match renderChecked options.layout unit with
      | .error failure => .error (.failed job (options.opening ++ [.rendering]) warnings failure)
      | .ok code => .ok ⟨options.opening ++ [.rendering, .writing], warnings, unit, code⟩

/-- A source comes to code exactly when it spells a unit that is judged well and can be rendered. -/
lemma prepare_eq_ok_iff {job : Job} {bytes : ByteArray} {p : Prepared} :
    options.prepare job bytes = .ok p ↔
      ∃ unit warnings, parseBytes job.source bytes = .ok unit ∧
        options.judge unit = .ok warnings ∧ unit.checkRenderable = .ok () ∧
        p = ⟨options.opening ++ [.rendering, .writing], warnings, unit,
          Kotlin.renderUnit options.layout unit⟩ := by
  unfold prepare
  cases hparse : parseBytes job.source bytes with
  | error failure => simp
  | ok unit =>
    cases hjudge : options.judge unit with
    | error failure => simp [hjudge]
    | ok warnings =>
      cases hrender : unit.checkRenderable with
      | error redeclaration => simp [hjudge, renderChecked, hrender]
      | ok _ => simp [hjudge, renderChecked, hrender, eq_comm]

/-- A job that stops before it writes has failed. -/
lemma exists_failed_of_prepare {job : Job} {bytes : ByteArray} {outcome : Outcome}
    (h : options.prepare job bytes = .error outcome) :
    ∃ trace warnings failure, outcome = .failed job trace warnings failure := by
  unfold prepare at h
  cases hparse : parseBytes job.source bytes with
  | error failure =>
    rw [hparse] at h
    exact ⟨_, _, failure, (Except.error.inj h).symm⟩
  | ok unit =>
    cases hjudge : options.judge unit with
    | error failure =>
      simp only [hparse, hjudge] at h
      exact ⟨_, _, failure, (Except.error.inj h).symm⟩
    | ok warnings =>
      cases hrender : renderChecked options.layout unit with
      | error failure =>
        simp only [hparse, hjudge, hrender] at h
        exact ⟨_, _, failure, (Except.error.inj h).symm⟩
      | ok code => simp [hparse, hjudge, hrender] at h

end MigrationOptions

section Run

variable {m : Type → Type} [Monad m] [LawfulMonad m] (storage : Storage m)
  (options : MigrationOptions) (job : Job)

/-- After validation a job makes its code and writes it. -/
lemma finish_documentPipeline (trace : List Stage) (warnings : List Warning) (unit : SourceUnit) :
    (documentPipeline storage options).finish job trace warnings unit =
      match renderChecked options.layout unit with
      | .error failure => return .failed job (trace ++ [.rendering]) warnings failure
      | .ok code => do
        let written ← storage.write job.destination code.toUTF8
        return Prepared.conclude ⟨trace ++ [.rendering, .writing], warnings, unit, code⟩ job
          written := by
  simp only [Pipeline.finish, documentPipeline, pure_bind]
  cases renderChecked options.layout unit with
  | error failure => rfl
  | ok code =>
    simp only [bind_assoc]
    refine bind_congr fun written => ?_
    cases written <;> simp [Prepared.conclude]

/-- A job reads its source, prepares what it read, and writes what that comes to. -/
lemma run_documentPipeline :
    (documentPipeline storage options).run job = do
      match ← storage.read job.source with
      | .error failure => return .failed job [.parsing] [] failure
      | .ok bytes =>
        match options.prepare job bytes with
        | .error outcome => return outcome
        | .ok p => do
          let written ← storage.write job.destination p.code.toUTF8
          return p.conclude job written := by
  rw [Pipeline.run]
  -- The equation for `finish` has to be used before the pipeline is unfolded.
  simp only [finish_documentPipeline]
  simp only [documentPipeline, bind_assoc, pure_bind]
  refine bind_congr fun read => ?_
  cases read with
  | error failure => simp
  | ok bytes =>
    simp only [pure_bind, MigrationOptions.prepare]
    cases parseBytes job.source bytes with
    | error failure => rfl
    | ok unit =>
      by_cases hskip : options.skipValidation = true
      · simp only [hskip, MigrationOptions.judge, MigrationOptions.opening]
        cases renderChecked options.layout unit <;> simp
      · simp only [hskip, MigrationOptions.judge, MigrationOptions.opening]
        cases (unit.verdict options.identifier).gate options.failOnWarnings with
        | error failure => simp
        | ok warnings => cases renderChecked options.layout unit <;> simp

end Run

/-! ## Files in memory -/

lemma parseBytes_eq_ok_iff {source : String} {bytes : ByteArray} {unit : SourceUnit} :
    parseBytes source bytes = .ok unit ↔
      ∃ text, Text.Utf8.decode bytes = .ok text ∧ Document.parse text.toList = .ok unit := by
  unfold parseBytes
  cases hdecode : Text.Utf8.decode bytes with
  | error fault => simp
  | ok text => cases hparse : Document.parse text.toList <;> simp [hparse]

section Memory

variable (closed : List String) (options : MigrationOptions)

/-- Migrates a job between files in memory. -/
def migrateInMemory : Job → StateM MemoryFiles Outcome :=
  (documentPipeline (memoryStorage closed) options).run

/-- Everything that a job needs: a source that spells a unit, a good verdict on the unit unless
none is asked for, a unit that can be rendered, and a destination that is open. -/
structure Migratable (files : MemoryFiles) (job : Job) (unit : SourceUnit)
    (warnings : List Warning) : Prop where
  source : ∃ bytes text, files.get? job.source = some bytes ∧ Text.Utf8.decode bytes = .ok text ∧
    Document.parse text.toList = .ok unit
  judged : options.judge unit = .ok warnings
  renderable : unit.checkRenderable = .ok ()
  destination : job.destination ∉ closed

/-- What an outcome promises about the files before and after its job. -/
structure FaithfulOutcome (job : Job) (before after : MemoryFiles) (outcome : Outcome) :
    Prop where
  job_eq : outcome.job = job
  /-- Nothing but the destination has changed. -/
  elsewhere : ∀ path, path ≠ job.destination → after.get? path = before.get? path
  /-- Unless the job is done nothing has changed at all. -/
  unchanged : outcome.stage ≠ .done → after = before
  /-- The job is done exactly when it had everything it needs. -/
  done_iff : outcome.stage = .done ↔
    ∃ unit warnings, Migratable closed options before job unit warnings
  /-- Once the job is done, the destination holds the code of the unit that the source spelled. -/
  written : outcome.stage = .done → ∃ unit,
    Migratable closed options before job unit outcome.warnings ∧ outcome.unit? = some unit ∧
      after.get? job.destination = some (Kotlin.renderUnit options.layout unit).toUTF8

lemma run_bind_eq {σ α β : Type} (x : StateM σ α) (f : α → StateM σ β) (s : σ) :
    (x >>= f).run s = (f (x.run s).1).run (x.run s).2 := rfl

/-- The two operations of a job, carried out on files in memory. -/
lemma migrateInMemory_eq (job : Job) (files : MemoryFiles) :
    (migrateInMemory closed options job).run files =
      match files.read job.source with
      | .error failure => (.failed job [.parsing] [] failure, files)
      | .ok bytes =>
        match options.prepare job bytes with
        | .error outcome => (outcome, files)
        | .ok p =>
          match files.write closed job.destination p.code.toUTF8 with
          | .error failure => (p.conclude job (.error failure), files)
          | .ok after => (p.conclude job (.ok ()), after) := by
  have hread : ((memoryStorage closed).read job.source).run files =
      (files.read job.source, files) := rfl
  rw [migrateInMemory, run_documentPipeline, run_bind_eq, hread]
  cases files.read job.source with
  | error failure => rfl
  | ok bytes =>
    dsimp only
    cases options.prepare job bytes with
    | error outcome => rfl
    | ok p =>
      dsimp only
      rw [run_bind_eq]
      simp only [memoryStorage, StateT.run]
      cases files.write closed job.destination p.code.toUTF8 <;> rfl

/-- A job that has everything it needs is done and writes the code of its unit. -/
lemma migrateInMemory_of_migratable {job : Job} {files : MemoryFiles} {unit : SourceUnit}
    {warnings : List Warning} (h : Migratable closed options files job unit warnings) :
    (migrateInMemory closed options job).run files =
      (.succeeded job (options.opening ++ [.rendering, .writing]) warnings unit job.destination,
        files.put job.destination (Kotlin.renderUnit options.layout unit).toUTF8) := by
  obtain ⟨bytes, text, hbytes, hdecode, hparse⟩ := h.source
  have hunit : parseBytes job.source bytes = .ok unit :=
    parseBytes_eq_ok_iff.2 ⟨text, hdecode, hparse⟩
  have hprepare := options.prepare_eq_ok_iff.2
    ⟨unit, warnings, hunit, h.judged, h.renderable, rfl⟩
  simp only [migrateInMemory_eq, MemoryFiles.read, hbytes, hprepare, MemoryFiles.write,
    List.contains_eq_mem, h.destination, Prepared.conclude]
  rfl

/-- A job that lacks something fails and leaves the files as they were. -/
lemma migrateInMemory_of_not_migratable {job : Job} {files : MemoryFiles}
    (h : ¬ ∃ unit warnings, Migratable closed options files job unit warnings) :
    ∃ trace warnings failure, (migrateInMemory closed options job).run files =
      (.failed job trace warnings failure, files) := by
  rw [migrateInMemory_eq, MemoryFiles.read]
  cases hbytes : files.get? job.source with
  | none => exact ⟨_, _, _, rfl⟩
  | some bytes =>
    dsimp only
    cases hprepare : options.prepare job bytes with
    | error outcome =>
      obtain ⟨trace, warnings, failure, rfl⟩ := options.exists_failed_of_prepare hprepare
      exact ⟨trace, warnings, failure, rfl⟩
    | ok p =>
      obtain ⟨unit, warnings, hparse, hjudged, hrenderable, -⟩ :=
        options.prepare_eq_ok_iff.1 hprepare
      obtain ⟨text, hdecode, hparse⟩ := parseBytes_eq_ok_iff.1 hparse
      have hclosed : job.destination ∈ closed := by
        by_contra hopen
        exact h ⟨unit, warnings, ⟨bytes, text, hbytes, hdecode, hparse⟩, hjudged, hrenderable,
          hopen⟩
      dsimp only
      rw [MemoryFiles.write, if_pos (by simpa using hclosed)]
      exact ⟨_, _, _, rfl⟩

/-- What one job does to the files. -/
lemma faithfulOutcome_migrateInMemory (job : Job) (files : MemoryFiles) :
    FaithfulOutcome closed options job files ((migrateInMemory closed options job).run files).2
      ((migrateInMemory closed options job).run files).1 := by
  by_cases h : ∃ unit warnings, Migratable closed options files job unit warnings
  · obtain ⟨unit, warnings, hjob⟩ := h
    rw [migrateInMemory_of_migratable closed options hjob]
    refine ⟨rfl, fun path hpath => files.get?_put_of_ne _ hpath, fun hstage => ?_, ?_, fun _ => ?_⟩
    · exact absurd (Outcome.stage_succeeded ..) hstage
    · exact iff_of_true (Outcome.stage_succeeded ..) ⟨unit, warnings, hjob⟩
    · exact ⟨unit, hjob, rfl, files.get?_put_self ..⟩
  · obtain ⟨trace, warnings, failure, heq⟩ := migrateInMemory_of_not_migratable closed options h
    have hstage : (Outcome.failed job trace warnings failure).stage ≠ .done := by simp
    rw [heq]
    exact ⟨rfl, fun _ _ => rfl, fun _ => rfl, iff_of_false hstage h,
      fun hdone => absurd hdone hstage⟩

/-! ### Runs of many jobs -/

lemma run_mapM_append {σ α β : Type} (f : α → StateM σ β) (xs ys : List α) (s : σ) :
    ((xs ++ ys).mapM f).run s =
      (((xs.mapM f).run s).1 ++ ((ys.mapM f).run ((xs.mapM f).run s).2).1,
        ((ys.mapM f).run ((xs.mapM f).run s).2).2) := by
  rw [List.mapM_append]
  rfl

lemma length_run_mapM {σ α β : Type} (f : α → StateM σ β) (xs : List α) (s : σ) :
    ((xs.mapM f).run s).1.length = xs.length := by
  induction xs generalizing s with
  | nil => rfl
  | cons x xs ih =>
    rw [List.mapM_cons, run_bind_eq, run_bind_eq]
    exact congrArg (· + 1) (ih _)

/-- **A migration changes exactly what it reports.**  Jobs run one after the other between files in
memory, some of which are closed to writing.  Take any job of the list: `earlier` are the jobs
before it and `later` those after it.  Then its outcome is faithful to the files as they stood when
the job started and as the job left them. -/
theorem migration_changes_only_what_it_reports (files : MemoryFiles) (earlier later : List Job)
    (job : Job) :
    let run := fun jobs : List Job => (jobs.mapM (migrateInMemory closed options)).run files
    ∃ outcome, (run (earlier ++ job :: later)).1[earlier.length]? = some outcome ∧
      FaithfulOutcome closed options job (run earlier).2 (run (earlier ++ [job])).2 outcome := by
  intro run
  let step := (migrateInMemory closed options job).run (run earlier).2
  have hafter : (run (earlier ++ [job])).2 = step.2 := by
    simp only [run, run_mapM_append]
    rfl
  refine ⟨step.1, ?_, ?_⟩
  · simp only [run, run_mapM_append]
    rw [List.getElem?_append_right (Nat.le_of_eq (length_run_mapM ..)), length_run_mapM,
      Nat.sub_self, List.mapM_cons, run_bind_eq, run_bind_eq]
    rfl
  · rw [hafter]
    exact faithfulOutcome_migrateInMemory closed options job (run earlier).2

end Memory

end Blueprint
