import Blueprint.Proofs.Batch.Schedule
import Blueprint.Proofs.Migration.Document
import Blueprint.Proofs.Storage.Disk

/-!
# Batches side by side

A batch on disk may run its jobs one after the other or side by side.  Side by side, a job reads its
source and writes its destination while others create directories, write staged files and rename
them.  The jobs here are independent: none works at a place of another, or above one.

That is not quite enough.  A path that goes up again from a missing directory, such as
`new/../arch/users.toml`, leads to the same place in every tree, but it is found only once the
directory is there, and another job may create it (`outcomes_depend_on_detours`).  So the places
that are no directories and that a path leaves before it goes up count as well: those of a
destination belong to the job, which may create them; those of a source it watches.  A source is
watched too where a name that is too long follows: what is wrong with the path changes with the
directory.

An independent job is undisturbed (`undisturbed_migrateOnDisk`), so its task has the result that it
has alone, under every schedule (`runScheduled_map`).  Outcomes arrive in the order in which tasks
end; the slots of the jobs undo that order (`collect_of_perm`).  And one after the other is a
schedule too (`run_runSequential`), so both ways to run the batch come to the same.
-/

namespace Blueprint

open FileTree (Place Territory placeOf goesUp goesAstray)

/-- Migrates a job between files below a base directory. -/
def migrateOnDisk (base : Path) (options : MigrationOptions) : Job → Script Outcome :=
  (documentPipeline (diskStorage base) options).run

namespace Job

variable (base : Path) (t : FileTree)

/-- The places that a job works at: its source, its destination and the staged file beside it. -/
def places (job : Job) : List Place :=
  let destination := base.join (.ofText job.destination)
  [placeOf (base.join (.ofText job.source)), placeOf destination,
    placeOf (stagingPath destination)]

/-- The territory of a job on a tree: its places, with the detours of its paths. -/
def territory (job : Job) : Territory where
  own := job.places base ++ t.detours goesUp [] (base.join (.ofText job.destination)).pieces
  watched := t.detours goesAstray [] (base.join (.ofText job.source)).pieces

/-- Neither job works at what the other works at or watches, or below it. -/
def Independent (a b : Job) : Prop :=
  (a.territory base t).ClearOf (b.territory base t) ∧
    (b.territory base t).ClearOf (a.territory base t)

instance : DecidableRel (Independent base t) := fun _ _ => instDecidableAnd

end Job

variable {base : Path} {options : MigrationOptions} {t : FileTree}

/-- A job is undisturbed in its territory. -/
lemma undisturbed_migrateOnDisk (hwell : t.WellFormed) (job : Job) :
    (migrateOnDisk base options job).Undisturbed (job.territory base t) t := by
  have hread : ((diskStorage base).read job.source).Undisturbed (job.territory base t) t :=
    undisturbed_readFile hwell (by simp [Job.territory, Job.places]) fun x hx => hx
  obtain ⟨result, hresult⟩ : ∃ result, ((diskStorage base).read job.source).run t = (result, t) :=
    run_readFile t _
  rw [migrateOnDisk, run_documentPipeline]
  refine hread.bind ?_
  rw [hresult]
  cases result with
  | error failure => trivial
  | ok bytes =>
    dsimp only
    cases options.prepare job bytes with
    | error outcome => trivial
    | ok p =>
      have hwrite : ((diskStorage base).write job.destination p.code.toUTF8).Undisturbed
          (job.territory base t) t :=
        undisturbed_writeStaged (by simp [Job.territory, Job.places])
          (by simp [Job.territory, Job.places]) hwell
          (fun x hx => List.mem_append_right _ hx) _
      exact hwrite.bind trivial

namespace Batch

/-! ## Collecting outcomes -/

lemma mem_arrivals {outcomes : List (Option Outcome)} {index : Nat} {outcome : Outcome} :
    (index, outcome) ∈ arrivals outcomes ↔ outcomes[index]? = some (some outcome) := by
  simp only [arrivals, List.mem_filterMap, List.mem_zipIdx_iff_getElem?, Prod.exists,
    Option.map_eq_some_iff, Prod.mk.injEq]
  constructor
  · rintro ⟨outcome?, i, hget, o, rfl, rfl, rfl⟩
    exact hget
  · intro hget
    exact ⟨some outcome, index, hget, outcome, rfl, rfl, rfl⟩

/-- The slots of the jobs once outcomes have arrived. -/
def fillSlots (slots : List (Option Outcome)) (arrived : List (Nat × Outcome)) :
    List (Option Outcome) :=
  arrived.foldl (fun slots (index, outcome) => slots.set index (some outcome)) slots

lemma getElem?_fillSlots_of_not_mem {arrived : List (Nat × Outcome)} {index : Nat}
    (h : ∀ outcome, (index, outcome) ∉ arrived) (slots : List (Option Outcome)) :
    (fillSlots slots arrived)[index]? = slots[index]? := by
  induction arrived generalizing slots with
  | nil => rfl
  | cons first rest ih =>
    have hne : first.1 ≠ index := by
      rintro rfl
      exact h first.2 List.mem_cons_self
    have hrest := ih (fun outcome hmem => h outcome (List.mem_cons_of_mem first hmem))
      (slots.set first.1 (some first.2))
    rwa [List.getElem?_set_ne hne] at hrest

/-- An outcome that no other one contradicts ends up in its slot. -/
lemma getElem?_fillSlots_of_mem {arrived : List (Nat × Outcome)} {index : Nat} {outcome : Outcome}
    (hmem : (index, outcome) ∈ arrived)
    (hunique : ∀ other, (index, other) ∈ arrived → other = outcome)
    {slots : List (Option Outcome)} (hlt : index < slots.length) :
    (fillSlots slots arrived)[index]? = some (some outcome) := by
  induction arrived generalizing slots with
  | nil => simp at hmem
  | cons first rest ih =>
    have huniqueRest : ∀ other, (index, other) ∈ rest → other = outcome := fun other hother =>
      hunique other (List.mem_cons_of_mem first hother)
    by_cases hrest : (index, outcome) ∈ rest
    · exact ih hrest huniqueRest (by simpa using hlt)
    · -- the outcome arrives now, and nothing arrives for this slot later
      obtain rfl : (index, outcome) = first := (List.mem_cons.1 hmem).resolve_right hrest
      have hnone : ∀ other, (index, other) ∉ rest := fun other hother =>
        hrest (huniqueRest other hother ▸ hother)
      exact (getElem?_fillSlots_of_not_mem hnone _).trans (List.getElem?_set_self hlt)

/-- Outcomes may arrive in any order. -/
lemma collect_of_perm {jobs : List Job} {outcomes : List (Option Outcome)}
    {arrived : List (Nat × Outcome)} (hlength : outcomes.length = jobs.length)
    (hperm : arrived.Perm (arrivals outcomes)) :
    collect jobs arrived =
      (jobs.zip outcomes).map fun (job, outcome?) => completion job outcome? := by
  have hslots : fillSlots (jobs.map fun _ => none) arrived = outcomes := by
    refine List.ext_getElem? fun index => ?_
    by_cases hsome : ∃ outcome, outcomes[index]? = some (some outcome)
    · obtain ⟨outcome, houtcome⟩ := hsome
      have hlt : index < jobs.length := hlength ▸ (List.getElem?_eq_some_iff.1 houtcome).1
      rw [houtcome]
      refine getElem?_fillSlots_of_mem (hperm.mem_iff.2 (mem_arrivals.2 houtcome)) ?_ (by simpa)
      intro other hother
      have hget := mem_arrivals.1 (hperm.mem_iff.1 hother)
      simpa [houtcome] using hget.symm
    · rw [getElem?_fillSlots_of_not_mem fun outcome hmem =>
        hsome ⟨outcome, mem_arrivals.1 (hperm.mem_iff.1 hmem)⟩]
      cases hget : outcomes[index]? with
      | none =>
        have hle := List.getElem?_eq_none_iff.1 hget
        simp only [List.getElem?_eq_none_iff, List.length_map]
        omega
      | some outcome? =>
        have hlt : index < jobs.length := hlength ▸ (List.getElem?_eq_some_iff.1 hget).1
        cases outcome? with
        | none => simp [hlt]
        | some outcome => exact absurd ⟨outcome, hget⟩ hsome
  rw [collect, ← hslots]
  rfl

/-! ## One after the other -/

/-- Without a schedule, scripts run one after the other. -/
lemma runScheduled_nil_cons (limit : Nat) (script : Script α) (rest : List (Script α))
    (t : FileTree) :
    runScheduled limit [] (script :: rest) t =
      ((script.run t).1 :: (runScheduled limit [] rest (script.run t).2).1,
        (runScheduled limit [] rest (script.run t).2).2) := by
  simp only [runScheduled, sideBySide, List.foldlM_nil, pure_bind, List.map_cons, List.mapM_cons,
    Script.run_bind, Script.run_pure]
  rfl

/-- Jobs one after the other are tasks without a schedule. -/
lemma run_runSequential (migrate : Job → Script Outcome) (jobs : List Job) (t : FileTree)
    (limit : Nat) :
    (runSequential migrate jobs).run t =
      ((runScheduled limit [] (jobs.map migrate) t).1.map .finished,
        (runScheduled limit [] (jobs.map migrate) t).2) := by
  induction jobs generalizing t with
  | nil => rfl
  | cons job rest ih =>
    have hrest := ih ((migrate job).run t).2
    rw [runSequential] at hrest
    simp only [runSequential, List.mapM_cons, Script.run_bind, Script.run_pure, hrest,
      List.map_cons, runScheduled_nil_cons]

/-! ## Side by side -/

/-- The territories of the jobs of a batch. -/
def territories (base : Path) (t : FileTree) (jobs : List Job) (i : Nat) : Territory :=
  (jobs[i]?.map (Job.territory base t)).getD ⟨[], []⟩

section Independent

variable {jobs : List Job} (hindependent : jobs.Pairwise (Job.Independent base t))

include hindependent

lemma mutuallyClear_territories : MutuallyClear (territories base t jobs) := by
  intro i j hne x hx y hy
  simp only [territories] at hx hy
  cases hi : jobs[i]? with
  | none => simp [hi] at hx
  | some a =>
    cases hj : jobs[j]? with
    | none => simp [hj] at hy
    | some b =>
      simp only [hi, hj, Option.map_some, Option.getD_some] at hx hy
      obtain ⟨hilt, rfl⟩ := List.getElem?_eq_some_iff.1 hi
      obtain ⟨hjlt, rfl⟩ := List.getElem?_eq_some_iff.1 hj
      rcases Nat.lt_or_gt_of_ne hne with hlt | hlt
      · exact (List.pairwise_iff_getElem.1 hindependent i j hilt hjlt hlt).1 x hx y hy
      · exact (List.pairwise_iff_getElem.1 hindependent j i hjlt hilt hlt).2 x hx y hy

/-- Undisturbed tasks of independent jobs have the results that they have alone, and each leaves in
its territory what it leaves there alone. -/
lemma runScheduled_map (task : Job → Script α)
    (htask : ∀ job ∈ jobs, (task job).Undisturbed (job.territory base t) t) (limit : Nat)
    (schedule : List Nat) :
    let result := runScheduled limit schedule (jobs.map task) t
    result.1 = jobs.map (fun job => ((task job).run t).1) ∧
      Overlay t (territories base t jobs)
        (fun i => (jobs[i]?.map fun job => ((task job).run t).2).getD t) result.2 ∧
      ∀ job ∈ jobs, ∀ place ∈ (job.territory base t).own,
        result.2.get? place = ((task job).run t).2.get? place := by
  intro result
  have hscripts : ∀ (i : Nat) (script : Script α), (jobs.map task)[i]? = some script →
      script.Undisturbed (territories base t jobs i) t := by
    intro i script hi
    rw [List.getElem?_map, Option.map_eq_some_iff] at hi
    obtain ⟨job, hjob, rfl⟩ := hi
    rw [territories, hjob]
    exact htask job (List.mem_of_getElem? hjob)
  have hclear := mutuallyClear_territories hindependent
  obtain ⟨hresults, hoverlay⟩ := runScheduled_eq hclear hscripts limit schedule
  simp only [List.getElem?_map, Option.map_map] at hoverlay
  refine ⟨hresults.trans List.map_map, hoverlay, fun job hjob place hplace => ?_⟩
  obtain ⟨i, hi⟩ := List.mem_iff_getElem?.1 hjob
  have hsame := (hoverlay.extends hclear i).same place (by rw [territories, hi]; exact hplace)
  rw [hi] at hsame
  exact hsame

end Independent

/-- **A batch comes to the same side by side and one after the other.**  However many jobs may be
active at once, whatever turns the schedule gives them and in whatever order their outcomes arrive,
the report on independent jobs is the one that they get one after the other, and every place holds
the same in the end, as long as no task dies.  Each job has the outcome that it has alone, and its
places hold what it leaves there alone; so a job that fails changes neither the outcome nor the file
of another. -/
theorem parallel_batch_eq_sequential_batch {jobs : List Job} (hwell : t.WellFormed)
    (hindependent : jobs.Pairwise (Job.Independent base t)) (machine : Machine)
    (halive : ∀ job ∈ jobs, machine.dies job = false) (settings : BatchSettings) (runId : String)
    (limit : Nat) :
    let migrate := migrateOnDisk base options
    let sequential := (runSequential migrate jobs).run t
    let parallel := (runParallel limit machine migrate jobs).run t
    report settings runId parallel.1 = report settings runId sequential.1 ∧
      (∀ place, parallel.2.get? place = sequential.2.get? place) ∧
      (∀ arrived,
        arrived.Perm (arrivals
          (runScheduled limit machine.schedule (jobs.map (machine.task migrate)) t).1) →
        collect jobs arrived = parallel.1) ∧
      parallel.1 = jobs.map (fun job => .finished ((migrate job).run t).1) ∧
      ∀ job ∈ jobs, ∀ place ∈ (job.territory base t).own,
        parallel.2.get? place = ((migrate job).run t).2.get? place := by
  intro migrate sequential parallel
  let task : Job → Script (Option Outcome) := fun job => return some (← migrate job)
  have hrun : ∀ job, (task job).run t = (some ((migrate job).run t).1, ((migrate job).run t).2) :=
    fun job => Script.run_bind ..
  have htasks : jobs.map (machine.task migrate) = jobs.map task := by
    refine List.map_congr_left fun job hjob => ?_
    rw [Machine.task, halive job hjob]
    rfl
  have hmigrate : ∀ job ∈ jobs, (migrate job).Undisturbed (job.territory base t) t :=
    fun job _ => undisturbed_migrateOnDisk hwell job
  obtain ⟨hresults, hoverlay, hplaces⟩ := runScheduled_map hindependent task
    (fun job hjob => (hmigrate job hjob).bind trivial) limit machine.schedule
  obtain ⟨hresults', hoverlay', -⟩ := runScheduled_map hindependent migrate hmigrate limit []
  simp only [hrun] at hresults hoverlay hplaces
  have hsequential : sequential = _ := run_runSequential migrate jobs t limit
  have hparallel : parallel =
      (collect jobs (arrivals (runScheduled limit machine.schedule (jobs.map task) t).1),
        (runScheduled limit machine.schedule (jobs.map task) t).2) := by
    rw [← htasks]
    exact Script.run_bind ..
  have hcollect : ∀ arrived,
      arrived.Perm (arrivals (runScheduled limit machine.schedule (jobs.map task) t).1) →
      collect jobs arrived = jobs.map fun job => .finished ((migrate job).run t).1 := by
    intro arrived hperm
    rw [collect_of_perm (by simp [hresults]) hperm, hresults, ← List.map_prod_left_eq_zip,
      List.map_map]
    rfl
  have hparallel₁ : parallel.1 = jobs.map fun job => .finished ((migrate job).run t).1 := by
    rw [hparallel]
    exact hcollect _ (.refl _)
  have hsequential₁ : sequential.1 = jobs.map fun job => .finished ((migrate job).run t).1 := by
    rw [hsequential]
    exact (congrArg (List.map Completed.finished) hresults').trans List.map_map
  refine ⟨by rw [hparallel₁, hsequential₁], fun place => ?_, fun arrived hperm => ?_, hparallel₁,
    fun job hjob place hplace => ?_⟩
  · rw [hparallel, hsequential]
    exact hoverlay.get?_eq hoverlay' place
  · rw [htasks] at hperm
    exact (hcollect arrived hperm).trans hparallel₁.symm
  · rw [hparallel]
    exact hplaces job hjob place hplace

/-- Three jobs for two active tasks.  Two of them need new directories, one on a detour; they take
turns, so that at one time the staged files of both are there.  The source of the third is missing.
-/
theorem parallel_batch_eq_sequential_batch_new_directory :
    let t : FileTree := ⟨[(["arch"], .directory),
      (["arch", "roles.toml"], .file "package = \"a\"\n[[entities]]\nname = \"Role\"".toUTF8),
      (["arch", "users.toml"], .file "package = \"a\"\n[[entities]]\nname = \"User\"".toUTF8)]⟩
    let jobs : List Job := [⟨"arch/roles.toml", "out/roles.kt"⟩,
      ⟨"arch/./users.toml", "new/../out/users.kt"⟩, ⟨"arch/gone.toml", "out/gone.kt"⟩]
    let migrate := migrateOnDisk workingDirectory { identifier := .empty }
    let start := [0, 1, 1, 0, 0, 1, 1, 0]
    let machine : Machine := { schedule := start ++ [2, 1, 2, 2, 0] }
    let settings : BatchSettings := ⟨.ofText "arch", .ofText "out", "toml", "kt", true, 2⟩
    let sequential := (runSequential migrate jobs).run t
    let parallel := (runParallel 2 machine migrate jobs).run t
    let halfway := (start.foldlM (turn 2) (jobs.map fun job => .waiting (machine.task migrate job)))
    (t.WellFormed ∧ jobs.Pairwise (Job.Independent workingDirectory t) ∧
        ∀ job ∈ jobs, machine.dies job = false) ∧
      (∀ target ∈ ["out/roles.kt", "out/users.kt"],
        ((halfway.run t).2.read (stagingPath (.ofText target))).isOk = true ∧
          ((halfway.run t).2.read (.ofText target)).isOk = false ∧
          (parallel.2.read (.ofText target)).isOk = true) ∧
      parallel.1.map (fun completed => completed.success?.isSome) = [true, true, false] ∧
      report settings "run" parallel.1 = report settings "run" sequential.1 ∧
      ∀ place, parallel.2.get? place = sequential.2.get? place := by
  intro t jobs migrate start machine settings sequential parallel halfway
  have hwell : t.WellFormed := FileTree.wellFormed_of_nodes (by decide +kernel)
  have hindependent : jobs.Pairwise (Job.Independent workingDirectory t) := by decide +kernel
  have halive : ∀ job ∈ jobs, machine.dies job = false := fun _ _ => rfl
  obtain ⟨hreport, hfiles, -⟩ := parallel_batch_eq_sequential_batch hwell hindependent machine
    halive settings "run" 2
  refine ⟨⟨hwell, hindependent, halive⟩, ?_, ?_, hreport, hfiles⟩
  all_goals decide +kernel

/-- Jobs whose places lie apart.  The source of one is found only once another job has created a
directory.  And of two jobs that write by way of a missing directory, the second meets another fault
than it would meet alone, since the first has created the directory before it failed. -/
theorem outcomes_depend_on_detours :
    let t : FileTree := ⟨[(["arch"], .directory),
      (["arch", "roles.toml"], .file "package = \"a\"".toUTF8),
      (["arch", "users.toml"], .file "package = \"a\"".toUTF8),
      (["a"], .directory), (["a", "f"], .file "".toUTF8)]⟩
    let migrate := migrateOnDisk workingDirectory { identifier := .empty }
    let apart : Job → Job → Prop := fun a b => ∀ x ∈ a.places workingDirectory,
      ∀ y ∈ b.places workingDirectory, ¬ x <+: y ∧ ¬ y <+: x
    let readers : List Job :=
      [⟨"arch/roles.toml", "new/roles.kt"⟩, ⟨"new/../arch/users.toml", "out/users.kt"⟩]
    let writers : List Job := [⟨"arch/roles.toml", "a/b/../f/new/roles.kt"⟩,
      ⟨"arch/users.toml", "a/b/../f/new/users.kt"⟩]
    (t.WellFormed ∧ readers.Pairwise apart ∧ writers.Pairwise apart) ∧
      ((runSequential migrate readers).run t).1.map (fun completed => completed.success?.isSome) =
        [true, true] ∧
      ((runParallel 2 { schedule := [1, 1] } migrate readers).run t).1.map
        (fun completed => completed.success?.isSome) = [true, false] ∧
      ((runSequential migrate writers).run t).1 ≠
        writers.map fun job => .finished ((migrate job).run t).1 := by
  intro t migrate apart readers writers
  have hwell : t.WellFormed := FileTree.wellFormed_of_nodes (by decide +kernel)
  refine ⟨⟨hwell, ?_, ?_⟩, ?_, ?_, ?_⟩
  all_goals decide +kernel

end Batch

end Blueprint
