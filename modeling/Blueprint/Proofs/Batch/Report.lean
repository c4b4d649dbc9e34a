import Blueprint.Batch.Report
import Blueprint.Migration.Pipeline
import Mathlib

/-!
# The tally of a report

A report is made from the jobs of a batch in the order in which they happen to be handed in.  It
looks at them twice.  The records of all files are sorted, and counted by whether they hold a
failure; the outcomes that ended with `done` are sorted on their own and become the modules of the
project.  `report_tallies` says that both views agree and that the order of the jobs does not show.

The agreement rests on two facts.  The signs of success of an outcome agree if it comes from a run
(`Outcome.IsEnded`), whatever the effects of the run; for these there is `SatisfiesM`, which no part
of Mathlib brings in but the whole.  And the sources are different, so a list that is sorted by
source is determined by its members (`eq_of_sorted_by_source`): to filter the sorted records is to
sort the filtered ones.
-/

namespace Blueprint

/-! ## Outcomes of runs -/

/-- A value that a computation can return: it has every property that all returned values have. -/
def CanReturn {m : Type → Type} [Monad m] {α : Type} (x : m α) (a : α) : Prop :=
  ∀ P : α → Prop, SatisfiesM P x → P a

/-- Some run can come to this outcome, whatever effects the steps of its pipeline have. -/
def Outcome.IsOfRun (o : Outcome) : Prop :=
  ∃ (m : Type → Type) (_ : Monad m) (_ : LawfulMonad m) (p : Pipeline m) (job : Job),
    CanReturn (p.run job) o

/-- The two ways in which a run ends. -/
inductive Outcome.IsEnded : Outcome → Prop
  | failed (job : Job) (trace : List Stage) (warnings : List Warning) (failure : Failure) :
      IsEnded (.failed job trace warnings failure)
  | succeeded (job : Job) (trace : List Stage) (warnings : List Warning) (unit : SourceUnit)
      (written : String) : IsEnded (.succeeded job trace warnings unit written)

namespace Outcome

variable {o : Outcome}

lemma satisfiesM_isEnded {m : Type → Type} [Monad m] [LawfulMonad m] (p : Pipeline m) (job : Job) :
    SatisfiesM IsEnded (p.run job) := by
  have hfinish : ∀ trace warnings unit,
      SatisfiesM IsEnded (p.finish job trace warnings unit) := by
    intro trace warnings unit
    refine SatisfiesM.trivial.bind fun rendered _ => ?_
    cases rendered with
    | error failure => exact SatisfiesM.pure (.failed ..)
    | ok code =>
      refine SatisfiesM.trivial.bind fun written _ => ?_
      cases written with
      | error failure => exact SatisfiesM.pure (.failed ..)
      | ok path => exact SatisfiesM.pure (.succeeded ..)
  refine SatisfiesM.trivial.bind fun parsed _ => ?_
  cases parsed with
  | error failure => exact SatisfiesM.pure (.failed ..)
  | ok unit =>
    by_cases hvalidates : p.validates = true
    · simp only [if_pos hvalidates]
      refine SatisfiesM.trivial.bind fun judged _ => ?_
      cases judged with
      | error failure => exact SatisfiesM.pure (.failed ..)
      | ok warnings => exact hfinish ..
    · simp only [if_neg hvalidates]
      exact hfinish ..

lemma IsOfRun.isEnded (h : o.IsOfRun) : o.IsEnded := by
  obtain ⟨m, _, _, p, job, hreturn⟩ := h
  exact hreturn IsEnded (satisfiesM_isEnded p job)

/-- A run that ended with `done` is one without a failure. -/
lemma IsEnded.isSuccess_iff (h : o.IsEnded) : o.isSuccess = true ↔ o.failure? = none := by
  cases h with
  | failed =>
    simp only [isSuccess, stage_failed]
    simp [Outcome.failed]
  | succeeded =>
    simp only [isSuccess, stage_succeeded]
    simp [Outcome.succeeded]

/-- A run that ended with `done` keeps its unit. -/
lemma IsEnded.exists_unit (h : o.IsEnded) (hsuccess : o.isSuccess = true) :
    ∃ unit, o.unit? = some unit := by
  cases h with
  | failed => simp [isSuccess, stage_failed] at hsuccess
  | succeeded _ _ _ unit => exact ⟨unit, rfl⟩

end Outcome

namespace Batch

/-! ## Sorting by source -/

section Sorted

variable {α : Type} {l l' : List α}

lemma sorted_mergeSort (source : α → String) (l : List α) :
    (l.mergeSort fun a b => decide (source a ≤ source b)).Pairwise
      fun a b => source a ≤ source b := by
  have hsorted : (l.mergeSort fun a b => decide (source a ≤ source b)).Pairwise
      fun a b => decide (source a ≤ source b) = true := by
    refine List.pairwise_mergeSort (fun a b c hab hbc => ?_) (fun a b => ?_) l
    · simp only [decide_eq_true_eq] at hab hbc ⊢
      exact hab.trans hbc
    · simpa using le_total (source a) (source b)
  simpa using hsorted

/-- With different sources, a sorted list is determined by its members. -/
lemma eq_of_sorted_by_source (source : α → String) (hsources : (l.map source).Nodup)
    (hsorted : l.Pairwise fun a b => source a ≤ source b)
    (hsorted' : l'.Pairwise fun a b => source a ≤ source b) (hperm : l.Perm l') : l = l' := by
  refine List.Perm.eq_of_pairwise (fun a b ha hb hab hba => ?_) hsorted hsorted' hperm
  exact List.inj_on_of_nodup_map hsources ha (hperm.mem_iff.2 hb) (le_antisymm hab hba)

lemma mergeSort_eq_of_perm (source : α → String) (hsources : (l.map source).Nodup)
    (hperm : l.Perm l') :
    (l.mergeSort fun a b => decide (source a ≤ source b)) =
      l'.mergeSort fun a b => decide (source a ≤ source b) := by
  have hl := List.mergeSort_perm l fun a b => decide (source a ≤ source b)
  have hl' := List.mergeSort_perm l' fun a b => decide (source a ≤ source b)
  refine eq_of_sorted_by_source source ?_ (sorted_mergeSort source l) (sorted_mergeSort source l')
    (hl.trans (hperm.trans hl'.symm))
  exact (hl.map source).nodup_iff.2 hsources

end Sorted

/-! ## The two views of a batch -/

/-- Every job that was finished came to the outcome of a run. -/
def AllOfRuns (completed : List Completed) : Prop :=
  ∀ o, Completed.finished o ∈ completed → o.IsOfRun

/-- Whether the trace of a file ends with `done`. -/
def FileOutcome.isDone (f : FileOutcome) : Bool :=
  f.trace.getLast? = some .done

/-- The record of a run holds no failure exactly if its trace ends with `done`. -/
lemma isSuccess_ofOutcome {o : Outcome} (h : o.IsEnded) :
    (FileOutcome.ofOutcome o).isSuccess = o.isSuccess := by
  rw [Bool.eq_iff_iff, h.isSuccess_iff]
  simp [FileOutcome.isSuccess, FileOutcome.ofOutcome]

lemma isDone_ofOutcome (o : Outcome) : (FileOutcome.ofOutcome o).isDone = o.isSuccess := by
  rw [FileOutcome.isDone, Outcome.isSuccess, decide_eq_decide]
  simp only [FileOutcome.ofOutcome, Outcome.stage]
  cases o.trace.getLast? <;> simp

section Views

variable {completed : List Completed}

lemma mem_successes {o : Outcome} :
    o ∈ completed.filterMap Completed.success? ↔
      Completed.finished o ∈ completed ∧ o.isSuccess = true := by
  rw [List.mem_filterMap]
  constructor
  · rintro ⟨c, hc, hsuccess⟩
    cases c with
    | aborted job => cases hsuccess
    | finished outcome =>
      simp only [Completed.success?, Option.ite_none_right_eq_some, Option.some.injEq] at hsuccess
      obtain ⟨hsuccess, rfl⟩ := hsuccess
      exact ⟨hc, hsuccess⟩
  · rintro ⟨hmem, hsuccess⟩
    exact ⟨.finished o, hmem, by simp [Completed.success?, hsuccess]⟩

/-- Before they are sorted, both views hold the same files in the same order. -/
lemma map_ofOutcome_successes (h : AllOfRuns completed) :
    (completed.filterMap Completed.success?).map FileOutcome.ofOutcome =
      (completed.map Completed.record).filter FileOutcome.isSuccess := by
  induction completed with
  | nil => rfl
  | cons c rest ih =>
    have hrest := ih fun o ho => h o (List.mem_cons_of_mem c ho)
    cases c with
    | aborted job =>
      have hfailed : (FileOutcome.aborted job).isSuccess = false := rfl
      simpa [List.filterMap_cons, Completed.success?, Completed.record, hfailed] using hrest
    | finished o =>
      have hsign := isSuccess_ofOutcome (h o List.mem_cons_self).isEnded
      by_cases hsuccess : o.isSuccess = true
      · simpa [Completed.success?, Completed.record, hsign, hsuccess] using hrest
      · simpa [Completed.success?, Completed.record, hsign, hsuccess] using hrest

/-- The jobs that were migrated have different sources, too. -/
lemma nodup_sources_successes (hsources : (completed.map fun c => c.record.source).Nodup)
    (hruns : AllOfRuns completed) :
    ((completed.filterMap Completed.success?).map fun o => o.job.source).Nodup := by
  have hmap : (completed.filterMap Completed.success?).map (fun o => o.job.source) =
      ((completed.map Completed.record).filter FileOutcome.isSuccess).map FileOutcome.source := by
    rw [← map_ofOutcome_successes hruns, List.map_map]
    rfl
  rw [hmap]
  refine List.Nodup.sublist (List.filter_sublist.map FileOutcome.source) ?_
  rwa [List.map_map]

/-- Sorting keeps both views alike. -/
lemma map_ofOutcome_sortedSuccesses (hsources : (completed.map fun c => c.record.source).Nodup)
    (hruns : AllOfRuns completed) :
    (sortedSuccesses completed).map FileOutcome.ofOutcome =
      (sortedRecords completed).filter FileOutcome.isSuccess := by
  have hsuccesses := List.mergeSort_perm (completed.filterMap Completed.success?)
    fun a b => decide (a.job.source ≤ b.job.source)
  have hrecords := List.mergeSort_perm (completed.map Completed.record)
    fun a b => decide (a.source ≤ b.source)
  have hperm : ((sortedSuccesses completed).map FileOutcome.ofOutcome).Perm
      ((sortedRecords completed).filter FileOutcome.isSuccess) := by
    refine (hsuccesses.map FileOutcome.ofOutcome).trans ?_
    rw [map_ofOutcome_successes hruns]
    exact (hrecords.filter FileOutcome.isSuccess).symm
  refine eq_of_sorted_by_source FileOutcome.source ?_ ?_ ?_ hperm
  · rw [List.map_map]
    exact (hsuccesses.map fun o => o.job.source).nodup_iff.2
      (nodup_sources_successes hsources hruns)
  · exact List.pairwise_map.2 (sorted_mergeSort (fun o : Outcome => o.job.source) _)
  · exact (sorted_mergeSort FileOutcome.source _).filter FileOutcome.isSuccess

end Views

/-! ## The report -/

/-- The module of a file that was migrated: its record and its unit come from one outcome. -/
structure IsModuleOf (settings : BatchSettings) (completed : List Completed) (f : FileOutcome)
    (m : ProjectModule) : Prop where
  exists_outcome : ∃ o, Completed.finished o ∈ completed ∧ f = .ofOutcome o ∧ o.unit? = some m.unit
  name : m.name = moduleName settings (.ofText f.source)
  children : m.children = []

section Report

variable (settings : BatchSettings) (runId : String) {completed : List Completed}

/-- The report does not depend on the order of the jobs. -/
lemma report_eq_of_perm (hsources : (completed.map fun c => c.record.source).Nodup)
    (hruns : AllOfRuns completed) {other : List Completed} (hperm : completed.Perm other) :
    report settings runId completed = report settings runId other := by
  have hrecords : sortedRecords completed = sortedRecords other := by
    refine mergeSort_eq_of_perm FileOutcome.source ?_ (hperm.map Completed.record)
    rwa [List.map_map]
  have hsuccesses : sortedSuccesses completed = sortedSuccesses other :=
    mergeSort_eq_of_perm (fun o : Outcome => o.job.source) (nodup_sources_successes hsources hruns)
      (hperm.filterMap Completed.success?)
  rw [report, report, hrecords, hsuccesses]

/-- The modules belong to the migrated files, one to each and in their order. -/
lemma forall₂_isModuleOf (hsources : (completed.map fun c => c.record.source).Nodup)
    (hruns : AllOfRuns completed) :
    List.Forall₂ (IsModuleOf settings completed)
      ((sortedRecords completed).filter FileOutcome.isSuccess)
      ((sortedSuccesses completed).filterMap (moduleOf? settings)) := by
  have hmem : ∀ o ∈ sortedSuccesses completed,
      Completed.finished o ∈ completed ∧ o.isSuccess = true := by
    intro o ho
    exact mem_successes.1 (List.mem_mergeSort.1 ho)
  rw [← map_ofOutcome_sortedSuccesses hsources hruns]
  generalize sortedSuccesses completed = successes at hmem
  induction successes with
  | nil => exact .nil
  | cons o rest ih =>
    obtain ⟨hfinished, hsuccess⟩ := hmem o List.mem_cons_self
    obtain ⟨unit, hunit⟩ := (hruns o hfinished).isEnded.exists_unit hsuccess
    have hmodule : moduleOf? settings o =
        some (.ofUnit (moduleName settings (.ofText o.job.source)) unit) := by
      rw [moduleOf?, hunit]
      rfl
    rw [List.map_cons, List.filterMap_cons_some hmodule]
    refine .cons ⟨⟨o, hfinished, rfl, hunit⟩, rfl, rfl⟩ ?_
    exact ih fun other hother => hmem other (List.mem_cons_of_mem o hother)

lemma subtreesOf_eq_self {modules : List ProjectModule} (h : ∀ m ∈ modules, m.children = []) :
    ProjectModule.subtreesOf modules = modules := by
  induction modules with
  | nil => rfl
  | cons m rest ih =>
    obtain ⟨name, unit, children⟩ := m
    obtain rfl : children = [] := h _ List.mem_cons_self
    rw [ProjectModule.subtreesOf, ih fun other hother => h other (List.mem_cons_of_mem _ hother)]
    rfl

/-- As many records hold no failure as traces end with `done`. -/
lemma length_filter_isSuccess (hruns : AllOfRuns completed) :
    ((sortedRecords completed).filter FileOutcome.isSuccess).length =
      completed.countP fun c => c.record.isDone := by
  rw [← List.countP_eq_length_filter, sortedRecords, (List.mergeSort_perm _ _).countP_eq,
    List.countP_map]
  refine List.countP_congr fun c hc => ?_
  cases c with
  | aborted job => simp [Completed.record, FileOutcome.aborted, FileOutcome.isSuccess,
      FileOutcome.isDone]
  | finished o =>
    have hsuccess := isSuccess_ofOutcome (hruns o hc).isEnded
    simp only [Function.comp_apply, Completed.record, hsuccess, isDone_ofOutcome]

/-- **The tally of a report.**  Let the jobs of a batch have different sources, and let each of them
have come to the outcome of a run or have died.  Then the report does not depend on their order.
Its outcomes are the records of the jobs, sorted by source.  The two counts add up to the number of
jobs.  The successes are the jobs that ended with `done`, and as many as the modules of the project.
These are the units of the migrated files in the order of their outcomes, one for each. -/
theorem report_tallies (hsources : (completed.map fun c => c.record.source).Nodup)
    (hruns : AllOfRuns completed) :
    let r := report settings runId completed
    (∀ other, other.Perm completed → report settings runId other = r) ∧
      (r.outcomes.Pairwise (fun a b => a.source ≤ b.source) ∧
        r.outcomes.Perm (completed.map Completed.record)) ∧
      r.successCount + r.failureCount = completed.length ∧
      r.successCount = completed.countP (fun c => c.record.isDone) ∧
      r.successCount = r.project.modules.length ∧
      r.project.allModules = r.project.modules ∧
      List.Forall₂ (IsModuleOf settings completed) (r.outcomes.filter FileOutcome.isSuccess)
        r.project.modules := by
  intro r
  have hmodules : List.Forall₂ (IsModuleOf settings completed)
      (r.outcomes.filter FileOutcome.isSuccess) r.project.modules :=
    forall₂_isModuleOf settings hsources hruns
  have hperm : r.outcomes.Perm (completed.map Completed.record) := List.mergeSort_perm _ _
  refine ⟨?_, ⟨sorted_mergeSort FileOutcome.source _, hperm⟩, ?_, length_filter_isSuccess hruns,
    hmodules.length_eq, ?_, hmodules⟩
  · intro other hother
    exact (report_eq_of_perm settings runId hsources hruns hother.symm).symm
  · have hle : r.successCount ≤ r.outcomes.length := List.length_filter_le ..
    have hlength : r.outcomes.length = completed.length := by
      rw [hperm.length_eq, List.length_map]
    have hfailures : r.failureCount = r.outcomes.length - r.successCount := rfl
    omega
  · refine subtreesOf_eq_self fun m hm => ?_
    obtain ⟨o, -, ho⟩ := List.mem_filterMap.1 hm
    obtain ⟨unit, -, rfl⟩ := Option.map_eq_some_iff.1 ho
    rfl

end Report

lemma isOfRun_run (p : Pipeline Id) (job : Job) : Outcome.IsOfRun (p.run job) :=
  ⟨Id, inferInstance, inferInstance, p, job, fun _ h => SatisfiesM_Id_eq.1 h⟩

/-- One file is migrated, the task of another died, and the document of a third cannot be read. -/
theorem report_tallies_aborted :
    let p : Pipeline Id :=
      { parse := fun job =>
          if job.source = "in/a.toml" then .error (.io "File not found: in/a.toml")
          else .ok { package := "com.acme" }
        validates := false
        validate := fun _ => .ok []
        render := fun unit => .ok unit.package
        write := fun job _ => .ok job.destination }
    let completed : List Completed :=
      [.finished (p.run ⟨"in/c.toml", "out/c.kt"⟩), .aborted ⟨"in/b.toml", "out/b.kt"⟩,
        .finished (p.run ⟨"in/a.toml", "out/a.kt"⟩)]
    let settings : BatchSettings := ⟨.ofText "in", .ofText "out", "toml", "kt", true, 2⟩
    let r := report settings "run" completed
    (completed.map fun c => c.record.source).Nodup ∧ AllOfRuns completed ∧
      report settings "run" completed.reverse = r ∧ r.successCount = 1 ∧ r.failureCount = 2 ∧
      r.project.modules.length = 1 := by
  intro p completed settings r
  have hsources : (completed.map fun c => c.record.source).Nodup := by decide
  have hruns : AllOfRuns completed := by
    intro o ho
    simp only [completed, List.mem_cons, Completed.finished.injEq, reduceCtorEq, List.not_mem_nil,
      or_false, false_or] at ho
    rcases ho with rfl | rfl
    · exact isOfRun_run p _
    · exact isOfRun_run p _
  obtain ⟨hperm, -, htotal, hdone, hmodules, -⟩ := report_tallies settings "run" hsources hruns
  have hone : r.successCount = 1 := hdone.trans (by decide)
  have hthree : r.successCount + r.failureCount = 3 := htotal
  exact ⟨hsources, hruns, hperm _ completed.reverse_perm, hone, by omega, hmodules.symm.trans hone⟩

end Batch

end Blueprint
