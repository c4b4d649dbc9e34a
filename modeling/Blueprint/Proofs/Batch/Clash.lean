import Blueprint.Proofs.Batch.Parallel
import Blueprint.Proofs.Batch.Sources
import Mathlib.Data.List.Nodup
import Mathlib.Data.List.Pairwise

/-!
# Documents in each other's way

Every job of a batch is meant to be a matter of its own document.  But jobs share the tree below the
destination directory, and the names there come from the documents: the code of `users/a.toml` goes
to `users/a.kt`, and is staged as `users/a.kt.partial`.  Two documents are in each other's way if a
directory of one has the name of a file of the other, or if the staged file of one has the name of
the code of the other (`InTheWay`).  Nothing keeps a tree from having such documents
(`code_lost_to_staged_file`).

That is all that can go wrong.  If no document is in the way of another, the jobs are independent
(`pairwise_independent`), and none of them notices the others.
-/

namespace Blueprint.FileTree

/-! ## Steady paths -/

open Blueprint.Path (IsPlain)

variable {t : FileTree} {here x : Place} {names pieces lead : List String} {risky : String → Bool}

/-- A path through directories is steady, whatever its pieces. -/
lemma steady_of_directories (h : ∀ x ∈ trail here pieces, t.get? x = some .directory) :
    t.steady risky here pieces = true := by
  induction pieces generalizing here with
  | nil => rfl
  | cons piece rest ih =>
    obtain ⟨hhere, hrest⟩ := List.forall_mem_cons.1 h
    exact steady_cons_iff.2 ⟨fun _ => hhere, ih hrest⟩

lemma steady_of_calm (h : ∀ piece ∈ pieces, risky piece = false) :
    t.steady risky here pieces = true := by
  induction pieces generalizing here with
  | nil => rfl
  | cons piece rest ih =>
    refine steady_cons_iff.2 ⟨fun ⟨p, hp, hrisky⟩ => ?_, ih (List.forall_mem_cons.1 h).2⟩
    simp [h p hp] at hrisky

/-- A path stays steady when pieces without risk are added to it. -/
lemma steady_append (hlead : t.steady risky here lead = true)
    (hcalm : ∀ piece ∈ pieces, risky piece = false) :
    t.steady risky here (lead ++ pieces) = true := by
  induction lead generalizing here with
  | nil => exact steady_of_calm hcalm
  | cons piece lead ih =>
    rw [steady_cons_iff] at hlead
    refine steady_cons_iff.2 ⟨fun hrisky => hlead.1 ?_, ih hlead.2⟩
    obtain ⟨p, hp, hrisky⟩ := hrisky
    rcases List.mem_append.1 (List.cons_append ▸ hp) with hmem | hmem
    · exact ⟨p, hmem, hrisky⟩
    · simp [hcalm p hmem] at hrisky

/-- Names pass only places above the one that they lead to. -/
lemma above_of_mem_trail (hplain : ∀ name ∈ names, IsPlain name) (hx : x ∈ trail here names) :
    x <+: here ++ names ∧ x ≠ here ++ names := by
  induction names generalizing here with
  | nil => simp at hx
  | cons name rest ih =>
    rcases List.mem_cons.1 hx with rfl | hx
    · exact ⟨List.prefix_append _ _, by simp⟩
    · rw [follow_plain (hplain name List.mem_cons_self)] at hx
      simpa using ih (fun n hn => hplain n (List.mem_cons_of_mem name hn)) hx

end Blueprint.FileTree

namespace Blueprint.Job

variable (base : Path)

/-- The place of the code of a job. -/
def codePlace (job : Job) : FileTree.Place :=
  FileTree.placeOf (base.join (.ofText job.destination))

/-- The place of the staged file of a job. -/
def stagedPlace (job : Job) : FileTree.Place :=
  FileTree.placeOf (stagingPath (base.join (.ofText job.destination)))

/-- What a job writes keeps clear of the files of another: neither its code nor its staged file
stands at the code of the other or above it, and their staged files are different. -/
def KeepsClear (a b : Job) : Prop :=
  ¬ a.codePlace base <+: b.codePlace base ∧ ¬ a.stagedPlace base <+: b.codePlace base ∧
    a.stagedPlace base ≠ b.stagedPlace base

end Blueprint.Job

namespace Blueprint.Batch

open FileTree (Place Territory placeOf followAll trail goesUp goesAstray)
open Blueprint.Path (IsPlain IsSpelled componentsOf)

variable {settings : BatchSettings} {t : FileTree} {init names a b : List String}
  {name : String} {rename : String → String}

/-! ## The files of a document -/

/-- The name of the code of a document. -/
def codeName (settings : BatchSettings) (name : String) : String :=
  (Path.splitName name).1 ++ "." ++ settings.targetExtension

/-- The name that the code of a document has until it is complete. -/
def stagedName (settings : BatchSettings) (name : String) : String :=
  codeName settings name ++ ".partial"

/-- A way with another name at its end. -/
def withLast (rename : String → String) (names : List String) : List String :=
  names.dropLast ++ names.getLast?.toList.map rename

@[simp] lemma withLast_concat : withLast rename (init ++ [name]) = init ++ [rename name] := by
  simp [withLast]

/-- A batch whose settings were validated, on a tree without a document that is called `..toml`. -/
structure Settled (settings : BatchSettings) (t : FileTree) : Prop where
  proper : t.IsProper
  validated : Validated settings t
  source_spelled : settings.sourceDir.IsSpelled
  dest_spelled : settings.destDir.IsSpelled
  no_dots : ∀ names ∈ sourceNames settings t,
    names.getLast? ≠ some (".." ++ settings.sourceExtension)

lemma Settled.document (h : Settled settings t) (hnames : names ∈ sourceNames settings t) :
    names ≠ [] ∧ (∃ data, t.get? (placeOf settings.sourceDir ++ names) = some (.file data)) ∧
      ∀ name ∈ names, IsPlain name ∧ '/' ∉ name.toList := by
  have hbelow := (List.mem_filter.1 hnames).1
  exact ⟨h.validated.names_ne_nil h.proper hbelow, h.proper.file_below hbelow⟩

lemma Settled.no_slash_codeName (h : Settled settings t) (hname : '/' ∉ name.toList) {stem : String}
    (hsplit : Path.splitName name = (stem, some settings.sourceExtension)) :
    '/' ∉ (codeName settings name).toList := by
  obtain ⟨rfl, -, -⟩ := Path.eq_of_splitName hsplit
  have htarget := h.validated.target_slash
  simp only [codeName, hsplit]
  simp_all

/-- Where the code of a document goes. -/
lemma Settled.destination_below (h : Settled settings t) (hnames : names ∈ sourceNames settings t) :
    ∃ dirs init name, names = init ++ [name] ∧ componentsOf true dirs = init.map .normal ∧
      IsPlain (codeName settings name) ∧
      (workingDirectory.join (.ofText (jobBelow settings names).destination)).pieces =
        settings.destDir.joinLead ++ dirs ++ [codeName settings name] := by
  have hsource := h.validated.isSource h.proper hnames
  obtain ⟨hne, -, hbelow⟩ := h.document hnames
  obtain ⟨dirs, name, stem, hsteps, -, hsplit, hdestination⟩ :=
    destinationFor_eq h.validated.target_ne hsource
  obtain ⟨init, last, rfl⟩ := (List.eq_nil_or_concat' names).resolve_left hne
  rw [List.map_append, List.map_singleton] at hsteps
  obtain ⟨hinit, hlast⟩ := List.append_inj' hsteps rfl
  obtain rfl : last = name := by simpa using hlast
  obtain ⟨hname, hstem, -⟩ := Path.eq_of_splitName hsplit
  have hdot : stem ≠ "." := by
    rintro rfl
    refine h.no_dots _ hnames ?_
    rw [List.getLast?_concat, hname]
    rfl
  have hcode : codeName settings last = Path.renamed stem settings.targetExtension := by
    rw [codeName, hsplit, Path.renamed, if_neg hdot]
  refine ⟨dirs, init, last, rfl, hinit.symm, ?_, ?_⟩
  · rw [hcode, Path.renamed, if_neg hdot]
    exact Path.isPlain_append_dot hstem _ fun hdot' => absurd hdot' hdot
  · have hslash : ∀ piece ∈ dirs ++ [codeName settings last], '/' ∉ piece.toList := by
      intro piece hpiece
      rcases List.mem_append.1 hpiece with hdir | hcode
      · rcases (Path.leads_of_componentsOf hinit.symm).2 piece hdir with (rfl | rfl) | hmem
        · simp
        · decide
        · exact (hbelow piece (List.mem_append_left _ hmem)).2
      · rw [List.mem_singleton.1 hcode]
        exact h.no_slash_codeName (hbelow last (by simp)).2 hsplit
    have hspelled := h.dest_spelled.append (by simp) hslash
    rw [← hcode] at hdestination
    rw [← hdestination] at hspelled
    rw [jobBelow, jobFor, hspelled.join_workingDirectory, hdestination, List.append_assoc]

lemma Settled.source_below (h : Settled settings t) (hnames : names ∈ sourceNames settings t) :
    (workingDirectory.join (.ofText (jobBelow settings names).source)).pieces =
      settings.sourceDir.joinLead ++ names := by
  obtain ⟨hne, -, hbelow⟩ := h.document hnames
  have hpath := Path.below_eq (p := settings.sourceDir) hne fun name hname => (hbelow name hname).1
  have hspelled := h.source_spelled.append hne fun name hname => (hbelow name hname).2
  rw [← hpath] at hspelled
  rw [jobBelow, jobFor, hspelled.join_workingDirectory, hpath]

lemma Settled.sourcePlace_below (h : Settled settings t)
    (hnames : names ∈ sourceNames settings t) :
    placeOf (workingDirectory.join (.ofText (jobBelow settings names).source)) =
      placeOf settings.sourceDir ++ names := by
  obtain ⟨-, -, hbelow⟩ := h.document hnames
  have hcomponents : componentsOf true names = names.map .normal :=
    Path.componentsOf_plain fun name hname => (hbelow name hname).1
  rw [placeOf, h.source_below hnames, FileTree.followAll_append, followAll_joinLead,
    (Path.leads_of_componentsOf hcomponents).1]

lemma Settled.codePlace_below (h : Settled settings t) (hnames : names ∈ sourceNames settings t) :
    (jobBelow settings names).codePlace workingDirectory =
      placeOf settings.destDir ++ withLast (codeName settings) names := by
  obtain ⟨dirs, init, name, rfl, hdirs, hplain, hpieces⟩ := h.destination_below hnames
  rw [Job.codePlace, placeOf, hpieces, FileTree.followAll_append, FileTree.followAll_append,
    followAll_joinLead, (Path.leads_of_componentsOf hdirs).1, FileTree.followAll_cons,
    FileTree.follow_plain hplain, withLast_concat, FileTree.followAll_nil, List.append_assoc]

lemma Settled.stagedPlace_below (h : Settled settings t) (hnames : names ∈ sourceNames settings t) :
    (jobBelow settings names).stagedPlace workingDirectory =
      placeOf settings.destDir ++ withLast (stagedName settings) names := by
  have hcode := h.codePlace_below hnames
  obtain ⟨dirs, init, name, rfl, hdirs, hplain, hpieces⟩ := h.destination_below hnames
  rw [Job.codePlace, withLast_concat, ← List.append_assoc] at hcode
  rw [Job.stagedPlace, withLast_concat]
  rcases placeOf_stagingPath
    (workingDirectory.join (.ofText (jobBelow settings (init ++ [name])).destination)) with
    ⟨directory, last, -, htarget, hstaged⟩ | ⟨hnone, -⟩
  · rw [hcode] at htarget
    obtain ⟨rfl, hlast⟩ := List.append_inj' htarget rfl
    rw [hstaged, ← List.singleton_inj.1 hlast, stagedName, List.append_assoc]
  · rw [Path.fileName?_of_plain hpieces hplain] at hnone
    cases hnone

lemma Settled.places_below (h : Settled settings t) (hnames : names ∈ sourceNames settings t) :
    (jobBelow settings names).places workingDirectory =
      [placeOf settings.sourceDir ++ names,
        placeOf settings.destDir ++ withLast (codeName settings) names,
        placeOf settings.destDir ++ withLast (stagedName settings) names] := by
  rw [← h.sourcePlace_below hnames, ← h.codePlace_below hnames, ← h.stagedPlace_below hnames]
  rfl

/-- The directories of the destination and of the documents lie beside each other.  The path of the
destination leads to its place whatever directories are created: it does not go up again from one
that is missing. -/
structure Separate (settings : BatchSettings) (t : FileTree) : Prop where
  steady : t.steady goesUp [] settings.destDir.pieces = true
  source_outside : ¬ placeOf settings.destDir <+: placeOf settings.sourceDir
  dest_outside : ¬ placeOf settings.sourceDir <+: placeOf settings.destDir

-- why a destination must not go up again from a missing directory: the first job that fails below
-- `a/b/../f`, which is a file, creates `a/b`, and what is wrong for the next job is something else
example :
    let t : FileTree := ⟨[(["a"], .directory), (["a", "f"], .file "".toUTF8)]⟩
    let target := Path.ofText "a/b/../f/users"
    (t.createDirs target).2 = .error .exists ∧
      ((t.createDirs target).1.createDirs target).2 = .error .notDirectory := by
  decide +kernel

lemma Separate.not_prefix (h : Separate settings t) (x y : List String) :
    ¬ placeOf settings.sourceDir ++ x <+: placeOf settings.destDir ++ y ∧
      ¬ placeOf settings.destDir ++ y <+: placeOf settings.sourceDir ++ x := by
  constructor <;> intro hlead
  · have hsource := (List.prefix_append (placeOf settings.sourceDir) x).trans hlead
    rcases List.prefix_or_prefix_of_prefix hsource (List.prefix_append _ y) with hle | hle
    · exact h.dest_outside hle
    · exact h.source_outside hle
  · have hdest := (List.prefix_append (placeOf settings.destDir) y).trans hlead
    rcases List.prefix_or_prefix_of_prefix hdest (List.prefix_append _ x) with hle | hle
    · exact h.source_outside hle
    · exact h.dest_outside hle

/-- The paths of jobs have no detours. -/
lemma Settled.territory_below (h : Settled settings t) (hseparate : Separate settings t)
    (hnames : names ∈ sourceNames settings t) :
    (jobBelow settings names).territory workingDirectory t =
      ⟨(jobBelow settings names).places workingDirectory, []⟩ := by
  obtain ⟨-, ⟨data, hfile⟩, hbelow⟩ := h.document hnames
  have hsource : t.steady goesAstray []
      (workingDirectory.join (.ofText (jobBelow settings names).source)).pieces = true := by
    rw [h.source_below hnames]
    refine FileTree.steady_of_directories fun x hx => ?_
    rw [FileTree.trail_append, followAll_joinLead, List.mem_append] at hx
    rcases hx with hx | hx
    · refine FileTree.directory_of_walk (FileTree.walk_of_locate h.validated.located) x ?_
      obtain ⟨rest, hrest⟩ := settings.sourceDir.joinLead_prefix
      rw [← hrest, FileTree.trail_append]
      exact List.mem_append_left _ hx
    · obtain ⟨hlead, hne⟩ :=
        FileTree.above_of_mem_trail (fun name hname => (hbelow name hname).1) hx
      exact h.proper.wellFormed.directory_of_prefix hlead hne (by simp [hfile])
  have hdest : t.steady goesUp []
      (workingDirectory.join (.ofText (jobBelow settings names).destination)).pieces = true := by
    obtain ⟨dirs, init, name, rfl, hdirs, hplain, hpieces⟩ := h.destination_below hnames
    rw [hpieces, List.append_assoc]
    have hlead : t.steady goesUp [] settings.destDir.joinLead = true := by
      obtain ⟨rest, hrest⟩ := settings.destDir.joinLead_prefix
      exact FileTree.steady_of_append (hrest.symm ▸ hseparate.steady)
    refine FileTree.steady_append hlead fun piece hpiece => ?_
    rw [goesUp, decide_eq_false_iff_not]
    rcases List.mem_append.1 hpiece with hdir | hcode
    · rcases (Path.leads_of_componentsOf hdirs).2 piece hdir with (rfl | rfl) | hmem
      · decide
      · decide
      · exact (hbelow piece (List.mem_append_left _ hmem)).1.ne_up
    · rw [List.mem_singleton.1 hcode]
      exact hplain.ne_up
  rw [Job.territory, FileTree.detours_eq_nil_of_steady hsource,
    FileTree.detours_eq_nil_of_steady hdest, List.append_nil]

/-! ## Documents in the way -/

/-- Whether the files of one document are in the way of another's.  Its code or its staged file
stands where the other needs a directory, or its staged file stands where the code of the other
goes. -/
def InTheWay (settings : BatchSettings) (a b : List String) : Prop :=
  withLast (codeName settings) a <+: b.dropLast ∨ withLast (stagedName settings) a <+: b.dropLast ∨
    withLast (stagedName settings) a = withLast (codeName settings) b

instance : Decidable (InTheWay settings a b) :=
  inferInstanceAs (Decidable (_ ∨ _ ∨ _))

-- a directory that is called like the code of a document beside it
example :
    let settings : BatchSettings := ⟨.ofText "arch", .ofText "out", "toml", "kt", true, 8⟩
    InTheWay settings ["a.toml"] ["a.kt", "b.toml"] := by
  decide +kernel

lemma withLast_prefix_iff {rename' : String → String} (hb : b ≠ []) :
    withLast rename a <+: withLast rename' b ↔
      withLast rename a <+: b.dropLast ∨ withLast rename a = withLast rename' b := by
  obtain ⟨init, name, rfl⟩ := (List.eq_nil_or_concat' b).resolve_left hb
  rw [withLast_concat, List.prefix_concat_iff, List.dropLast_concat, or_comm]

lemma exists_last_of_hasExtension {extension : String}
    (h : hasExtension extension names = true) :
    ∃ init name, names = init ++ [name] ∧
      name = (Path.splitName name).1 ++ "." ++ extension := by
  rw [hasExtension, decide_eq_true_iff] at h
  obtain ⟨name, hname, hsplit⟩ := Option.bind_eq_some_iff.1 h
  obtain ⟨init, rfl⟩ := List.getLast?_eq_some_iff.1 hname
  exact ⟨init, name, rfl, (Path.eq_of_splitName (Prod.ext rfl hsplit)).1⟩

/-- Documents whose files have the same name have the same name themselves. -/
lemma withLast_injective {extension : String} (ha : hasExtension extension a = true)
    (hb : hasExtension extension b = true)
    (hrename : ∀ name name', rename name = rename name' →
      (Path.splitName name).1 = (Path.splitName name').1)
    (h : withLast rename a = withLast rename b) : a = b := by
  obtain ⟨init, name, rfl, hname⟩ := exists_last_of_hasExtension ha
  obtain ⟨init', name', rfl, hname'⟩ := exists_last_of_hasExtension hb
  rw [withLast_concat, withLast_concat] at h
  obtain ⟨rfl, hlast⟩ := List.append_inj' h rfl
  rw [hname, hname', hrename name name' (List.singleton_inj.1 hlast)]

lemma stem_of_codeName {name name' : String}
    (h : codeName settings name = codeName settings name') :
    (Path.splitName name).1 = (Path.splitName name').1 := by
  simpa [codeName] using h

lemma stem_of_stagedName {name name' : String}
    (h : stagedName settings name = stagedName settings name') :
    (Path.splitName name).1 = (Path.splitName name').1 :=
  stem_of_codeName (by simpa [stagedName] using h)

section

variable (h : Settled settings t) (ha : a ∈ sourceNames settings t)
  (hb : b ∈ sourceNames settings t)
include ha hb

lemma withLast_ne (hne : a ≠ b) :
    withLast (codeName settings) a ≠ withLast (codeName settings) b ∧
      withLast (stagedName settings) a ≠ withLast (stagedName settings) b := by
  have haExtension := (List.mem_filter.1 ha).2
  have hbExtension := (List.mem_filter.1 hb).2
  refine ⟨fun heq => hne ?_, fun heq => hne ?_⟩
  · exact withLast_injective haExtension hbExtension (fun _ _ => stem_of_codeName) heq
  · exact withLast_injective haExtension hbExtension (fun _ _ => stem_of_stagedName) heq

include h

lemma Settled.keepsClear_iff (hne : a ≠ b) :
    (jobBelow settings a).KeepsClear workingDirectory (jobBelow settings b) ↔
      ¬ InTheWay settings a b := by
  obtain ⟨hlast, -, -⟩ := h.document hb
  obtain ⟨hcode, hstaged⟩ := withLast_ne ha hb hne
  rw [Job.KeepsClear, h.codePlace_below ha, h.codePlace_below hb, h.stagedPlace_below ha,
    h.stagedPlace_below hb, List.prefix_append_right_inj, List.prefix_append_right_inj,
    withLast_prefix_iff hlast, withLast_prefix_iff hlast, InTheWay]
  simp [hcode, hstaged]

/-- The places of documents that are not in each other's way. -/
lemma Settled.not_prefix_places (hseparate : Separate settings t) (hne : a ≠ b)
    (hab : ¬ InTheWay settings a b) (hba : ¬ InTheWay settings b a) :
    ∀ x ∈ (jobBelow settings a).places workingDirectory,
      ∀ y ∈ (jobBelow settings b).places workingDirectory, ¬ x <+: y := by
  obtain ⟨-, ⟨data, hfile⟩, -⟩ := h.document ha
  obtain ⟨hlast, ⟨data', hfile'⟩, -⟩ := h.document hb
  obtain ⟨hcode, hstaged⟩ := withLast_ne ha hb hne
  -- below a file there is nothing
  have hdocument : ¬ placeOf settings.sourceDir ++ a <+: placeOf settings.sourceDir ++ b := by
    intro hlead
    have hdirectory :=
      h.proper.wellFormed.directory_of_prefix hlead (by simpa using hne) (by simp [hfile'])
    simp [hfile] at hdirectory
  simp only [InTheWay, not_or] at hab hba
  have hwritten : ∀ rename rename' : String → String,
      ¬ withLast rename a <+: b.dropLast → withLast rename a ≠ withLast rename' b →
      ¬ placeOf settings.destDir ++ withLast rename a <+:
        placeOf settings.destDir ++ withLast rename' b := by
    intro rename rename' hlead heq
    rw [List.prefix_append_right_inj, withLast_prefix_iff hlast, not_or]
    exact ⟨hlead, heq⟩
  intro x hx y hy
  simp only [h.places_below ha, List.mem_cons, List.not_mem_nil, or_false] at hx
  simp only [h.places_below hb, List.mem_cons, List.not_mem_nil, or_false] at hy
  rcases hx with rfl | rfl | rfl <;> rcases hy with rfl | rfl | rfl
  · exact hdocument
  · exact (hseparate.not_prefix _ _).1
  · exact (hseparate.not_prefix _ _).1
  · exact (hseparate.not_prefix _ _).2
  · exact hwritten _ _ hab.1 hcode
  · exact hwritten _ _ hab.1 (Ne.symm hba.2.2)
  · exact (hseparate.not_prefix _ _).2
  · exact hwritten _ _ hab.2.1 hab.2.2
  · exact hwritten _ _ hab.2.1 hstaged

end

/-- Whether no document is in the way of another. -/
def AllClear (settings : BatchSettings) (t : FileTree) : Prop :=
  ∀ a ∈ sourceNames settings t, ∀ b ∈ sourceNames settings t, a ≠ b → ¬ InTheWay settings a b

instance : Decidable (AllClear settings t) :=
  inferInstanceAs (Decidable (∀ a ∈ sourceNames settings t, ∀ b ∈ sourceNames settings t, _))

/-- Whether two jobs keep clear of each other. -/
def ClearOfEachOther (a b : Job) : Prop :=
  a.KeepsClear workingDirectory b ∧ b.KeepsClear workingDirectory a

lemma Settled.nodup_sourceNames (h : Settled settings t) : (sourceNames settings t).Nodup :=
  (h.proper.nodup_namesBelow _).filter _

lemma Settled.pairwise_clear_iff (h : Settled settings t) :
    ((sourceNames settings t).map (jobBelow settings)).Pairwise ClearOfEachOther ↔
      AllClear settings t := by
  rw [List.pairwise_map]
  constructor
  · intro hclear a ha b hb hne
    have : Std.Symm fun a b => ClearOfEachOther (jobBelow settings a) (jobBelow settings b) :=
      ⟨fun _ _ => And.symm⟩
    exact (h.keepsClear_iff ha hb hne).1 (hclear.forall ha hb hne).1
  · intro hclear
    refine h.nodup_sourceNames.pairwise_of_forall_ne fun a ha b hb hne => ?_
    exact ⟨(h.keepsClear_iff ha hb hne).2 (hclear a ha b hb hne),
      (h.keepsClear_iff hb ha hne.symm).2 (hclear b hb a ha hne.symm)⟩

lemma Settled.pairwise_independent (h : Settled settings t) (hseparate : Separate settings t)
    (hclear : AllClear settings t) :
    ((sourceNames settings t).map (jobBelow settings)).Pairwise
      (Job.Independent workingDirectory t) := by
  rw [List.pairwise_map]
  have hclearOf : ∀ a ∈ sourceNames settings t, ∀ b ∈ sourceNames settings t, a ≠ b →
      ((jobBelow settings a).territory workingDirectory t).ClearOf
        ((jobBelow settings b).territory workingDirectory t) := by
    intro a ha b hb hne
    rw [h.territory_below hseparate ha, h.territory_below hseparate hb, Territory.ClearOf,
      List.append_nil]
    exact h.not_prefix_places ha hb hseparate hne (hclear a ha b hb hne)
      (hclear b hb a ha hne.symm)
  exact h.nodup_sourceNames.pairwise_of_forall_ne fun a ha b hb hne =>
    ⟨hclearOf a ha b hb hne, hclearOf b hb a ha hne.symm⟩

/-- **Documents are migrated as if each were alone, unless one is in the way of another.**  A batch
has jobs whose files keep clear of each other if and only if no document is in the way of another.
If so, every job has the outcome that it has alone, and its places hold in the end what it leaves
there alone: in whatever order the jobs are given, however many of them may be active at once and
whatever turns the schedule gives them.  (Without a schedule, jobs run one after the other.) -/
theorem jobs_undisturbed_unless_inTheWay (hproper : t.IsProper)
    (hsource : settings.sourceDir.IsSpelled) (hdest : settings.destDir.IsSpelled)
    (hvalid : ((validate settings).run t).1 = .ok ()) (hseparate : Separate settings t)
    (hdots : ∀ names ∈ sourceNames settings t,
      names.getLast? ≠ some (".." ++ settings.sourceExtension)) :
    ∃ jobs, (Batch.jobs settings).run t = (.ok jobs, t) ∧
      (jobs.Pairwise ClearOfEachOther ↔ AllClear settings t) ∧
      (AllClear settings t → ∀ (options : MigrationOptions) (order : List Job) (limit : Nat)
          (schedule : List Nat), order.Perm jobs →
        let migrate := migrateOnDisk workingDirectory options
        let result := runScheduled limit schedule (order.map migrate) t
        result.1 = order.map (fun job => ((migrate job).run t).1) ∧
          ∀ job ∈ jobs, ∀ place ∈ job.places workingDirectory,
            result.2.get? place = ((migrate job).run t).2.get? place) := by
  have h : Settled settings t := ⟨hproper, validated_of_validate hvalid, hsource, hdest, hdots⟩
  obtain ⟨jobs, hjobs, hperm⟩ := run_jobs hproper h.validated
  refine ⟨jobs, hjobs, (hperm.pairwise_iff And.symm).trans h.pairwise_clear_iff,
    fun hclear options order limit schedule horder => ?_⟩
  intro migrate result
  have hindependent : order.Pairwise (Job.Independent workingDirectory t) :=
    ((horder.trans hperm).pairwise_iff And.symm).2 (h.pairwise_independent hseparate hclear)
  obtain ⟨hresults, -, hplaces⟩ := runScheduled_map hindependent migrate
    (fun job _ => undisturbed_migrateOnDisk hproper.wellFormed job) limit schedule
  exact ⟨hresults, fun job hjob place hplace =>
    hplaces job (horder.mem_iff.2 hjob) place (List.mem_append_left _ hplace)⟩

/-- Documents of one name in two directories, and one whose name holds the target extension. -/
theorem jobs_undisturbed_unless_inTheWay_same_names :
    let t : FileTree := ⟨[(["arch"], .directory),
      (["arch", "roles.toml"], .file "package = \"a\"".toUTF8),
      (["arch", "roles.kt.toml"], .file "package = \"b\"".toUTF8), (["arch", "roles"], .directory),
      (["arch", "roles", "roles.toml"], .file "package = \"c\"".toUTF8)]⟩
    let settings : BatchSettings := ⟨.ofText "arch/", .ofText "./out", "toml", "kt", true, 8⟩
    (t.IsProper ∧ settings.sourceDir.IsSpelled ∧ settings.destDir.IsSpelled ∧
        ((validate settings).run t).1 = .ok () ∧ Separate settings t ∧
        ∀ names ∈ sourceNames settings t,
          names.getLast? ≠ some (".." ++ settings.sourceExtension)) ∧
      ∃ jobs, (Batch.jobs settings).run t = (.ok jobs, t) ∧ jobs.Pairwise ClearOfEachOther ∧
        ∀ (order : List Job) (limit : Nat) (schedule : List Nat), order.Perm jobs →
          let result := runScheduled limit schedule
            (order.map (migrateOnDisk workingDirectory { identifier := .empty })) t
          (∀ outcome ∈ result.1, outcome.isSuccess = true) ∧
            ∀ job ∈ jobs,
              (result.2.get? (job.codePlace workingDirectory)).isSome = true := by
  intro t settings
  have hproper : t.IsProper :=
    ⟨FileTree.wellFormed_of_nodes (by decide +kernel), by decide +kernel, by decide +kernel⟩
  have hsource : settings.sourceDir.IsSpelled :=
    Path.isSpelled_ofText (by decide : "arch/" ≠ "")
  have hdest : settings.destDir.IsSpelled := Path.isSpelled_ofText (by decide : "./out" ≠ "")
  have hvalid : ((validate settings).run t).1 = .ok () := by decide +kernel
  have hseparate : Separate settings t := ⟨by decide +kernel, by decide +kernel, by decide +kernel⟩
  have hdots : ∀ names ∈ sourceNames settings t,
      names.getLast? ≠ some (".." ++ settings.sourceExtension) := by decide +kernel
  obtain ⟨jobs, hjobs, hclear, halone⟩ :=
    jobs_undisturbed_unless_inTheWay hproper hsource hdest hvalid hseparate hdots
  have hall : AllClear settings t := by decide +kernel
  have hsuccess : ∀ job ∈ (sourceNames settings t).map (jobBelow settings),
      let alone := (migrateOnDisk workingDirectory { identifier := .empty } job).run t
      alone.1.isSuccess = true ∧
        (alone.2.get? (job.codePlace workingDirectory)).isSome = true := by decide +kernel
  obtain ⟨jobs', hjobs', hperm⟩ := run_jobs hproper (validated_of_validate hvalid)
  obtain rfl : jobs' = jobs := Except.ok.inj (Prod.mk.inj (hjobs'.symm.trans hjobs)).1
  refine ⟨⟨hproper, hsource, hdest, hvalid, hseparate, hdots⟩, jobs', hjobs, hclear.2 hall,
    fun order limit schedule horder => ?_⟩
  obtain ⟨hresults, hplaces⟩ := halone hall { identifier := .empty } order limit schedule horder
  refine ⟨fun outcome houtcome => ?_, fun job hjob => ?_⟩
  · rw [hresults] at houtcome
    obtain ⟨job, hjob, rfl⟩ := List.mem_map.1 houtcome
    exact (hsuccess job ((horder.trans hperm).mem_iff.1 hjob)).1
  · rw [hplaces job hjob _ (by simp [Job.places, Job.codePlace])]
    exact (hsuccess job (hperm.mem_iff.1 hjob)).2

/-- With the target extension `partial`, the code of `x.partial.toml` has the name of the staged
file of `x.toml`.  Both documents are migrated without a failure, but the code of the former is gone
in the end, which it is not if it is migrated last or alone. -/
theorem code_lost_to_staged_file :
    let t : FileTree := ⟨[(["arch"], .directory),
      (["arch", "x.partial.toml"], .file "package = \"a\"".toUTF8),
      (["arch", "x.toml"], .file "package = \"a\"".toUTF8)]⟩
    let settings : BatchSettings := ⟨.ofText "arch", .ofText "out", "toml", "partial", false, 8⟩
    let first : Job := ⟨"arch/x.partial.toml", "out/x.partial.partial"⟩
    let second : Job := ⟨"arch/x.toml", "out/x.partial"⟩
    let migrate := migrateOnDisk workingDirectory { identifier := .empty }
    let after := fun jobs : List Job => runScheduled 1 [] (jobs.map migrate) t
    (t.IsProper ∧ ((validate settings).run t).1 = .ok () ∧ Separate settings t ∧
        ∃ jobs, (Batch.jobs settings).run t = (.ok jobs, t) ∧ jobs.Perm [first, second]) ∧
      second.stagedPlace workingDirectory = first.codePlace workingDirectory ∧
      (∀ outcome ∈ (after [first, second]).1, outcome.isSuccess = true) ∧
      ((after [first, second]).2.get? (first.codePlace workingDirectory)).isNone = true ∧
      ((after [second, first]).2.get? (first.codePlace workingDirectory)).isSome = true ∧
      ((after [first]).2.get? (first.codePlace workingDirectory)).isSome = true := by
  intro t settings first second migrate after
  have hproper : t.IsProper :=
    ⟨FileTree.wellFormed_of_nodes (by decide +kernel), by decide +kernel, by decide +kernel⟩
  have hvalid : ((validate settings).run t).1 = .ok () := by decide +kernel
  have hseparate : Separate settings t := ⟨by decide +kernel, by decide +kernel, by decide +kernel⟩
  obtain ⟨jobs, hjobs, hperm⟩ := run_jobs hproper (validated_of_validate hvalid)
  have hdocuments : (sourceNames settings t).map (jobBelow settings) = [first, second] := by
    decide +kernel
  refine ⟨⟨hproper, hvalid, hseparate, jobs, hjobs, hdocuments ▸ hperm⟩, ?_, ?_, ?_, ?_, ?_⟩
  all_goals decide +kernel

end Blueprint.Batch
