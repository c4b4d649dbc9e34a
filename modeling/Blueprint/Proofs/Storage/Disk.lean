import Blueprint.Proofs.FileTree.Interference
import Blueprint.Storage.Disk

/-!
# Staged writes beside other work

Writing a file by way of a staged one takes four operations: the directory of the target is created,
the staged file is written and renamed, or removed if that fails.  Whoever owns the target, the
staged file and the detours of the target can do all of them undisturbed.  Others may create
directories above the two in the meantime; but once the directory of the target is there, both paths
lead through directories only, and these stay (`IsReady`).
-/

namespace Blueprint

open FileTree (Place Territory Confined placeOf trail goesUp goesAstray followAll)

variable {land : Territory} {own : List Place} {s s' t : FileTree} {target parent : Path}

/-! ## The directory of a target -/

/-- How a path goes on from its parent: by a name, or by dots. -/
structure GoesOn (parent : Path) (last : String) (target : Path) : Prop where
  trimmed : parent.trimmed = parent
  pieces : ∃ gap blanks, target.pieces = parent.pieces ++ (gap ++ last :: blanks)
  place : placeOf target = FileTree.follow (placeOf parent) last
  passed : ∀ x ∈ trail [] target.pieces,
    x ∈ trail [] parent.pieces ∨ x = placeOf parent ∨ x = placeOf target
  last : Path.IsPlain last ∧ target.fileName? = some last ∨
    target.fileName? = none ∧ (last = ".." ∨ last = "." ∧ parent.pieces = [])

lemma exists_goesOn (hparent : target.parent? = some parent) :
    ∃ last, GoesOn parent last target := by
  rcases target.ends with ⟨-, hnone, -⟩ | ⟨init, last, hconcat, hsome, hlast⟩
  · simp [hparent] at hnone
  · obtain rfl := Option.some.inj (hparent.symm.trans hsome)
    obtain ⟨gap, blanks, hpieces, hgap, hblanks⟩ := Path.pieces_of_trimmed hconcat
    have hplace : placeOf target =
        FileTree.follow (followAll [] (Path.trimPieces (!target.absolute) init)) last := by
      rw [placeOf, hpieces, FileTree.followAll_append, FileTree.followAll_append,
        FileTree.followAll_blanks hgap, FileTree.followAll_cons, FileTree.followAll_blanks hblanks]
    refine ⟨last, by rw [Path.trimmed, Path.trimPieces_trimPieces], ⟨gap, blanks, hpieces⟩, hplace,
      fun x hx => ?_, ?_⟩
    · rw [hpieces, FileTree.trail_append, FileTree.trail_append, FileTree.trail_cons,
        FileTree.followAll_blanks hgap, List.mem_append, List.mem_append, List.mem_cons,
        ← hplace] at hx
      rcases hx with hx | hx | hx | hx
      · exact Or.inl hx
      · exact Or.inr (Or.inl (FileTree.eq_of_mem_trail_blanks hgap hx))
      · exact Or.inr (Or.inl hx)
      · exact Or.inr (Or.inr (FileTree.eq_of_mem_trail_blanks hblanks hx))
    · rcases hlast with hplain | ⟨hup, hname⟩ | ⟨hdot, rfl, hname⟩
      · exact Or.inl hplain
      · exact Or.inr ⟨hname, Or.inl hup⟩
      · exact Or.inr ⟨hname, Or.inr ⟨hdot, rfl⟩⟩

/-- A path without a parent is the top. -/
lemma eq_nil_of_parent?_eq_none (hparent : target.parent? = none) :
    target.fileName? = none ∧ placeOf target = [] ∧ ∀ x ∈ trail [] target.pieces, x = [] := by
  rcases target.ends with ⟨hnil, -, hname⟩ | ⟨init, last, -, hsome, -⟩
  · obtain ⟨blanks, hpieces, hblanks⟩ :=
      Path.exists_trimPieces_append (!target.absolute) target.pieces
    have htop : target.pieces = blanks := by
      have hnone : Path.trimPieces (!target.absolute) target.pieces = [] := hnil
      rw [hpieces, hnone, List.nil_append]
    rw [placeOf, htop]
    exact ⟨hname, FileTree.followAll_blanks hblanks,
      fun x hx => FileTree.eq_of_mem_trail_blanks hblanks hx⟩
  · simp [hparent] at hsome

/-- A path with a name added leads through what the path leads through and ends at. -/
lemma directories_join {p : Path} {name : String}
    (htrail : ∀ x ∈ trail [] p.pieces, s.get? x = some .directory)
    (hend : s.get? (placeOf p) = some .directory) :
    ∀ x ∈ trail [] (p.join ⟨false, [name]⟩).pieces, s.get? x = some .directory := by
  have hjoin : ∃ lead blanks, (p.join ⟨false, [name]⟩).pieces = lead ++ [name] ∧
      p.pieces = lead ++ blanks ∧ ∀ blank ∈ blanks, Path.IsBlank blank := by
    by_cases hslash : p.pieces.getLast? = some ""
    · refine ⟨p.pieces.dropLast, [""], by simp [Path.join, hslash], ?_, by simp [Path.IsBlank]⟩
      exact (List.dropLast_append_getLast? "" hslash).symm
    · exact ⟨p.pieces, [], by simp [Path.join, hslash], by simp, by simp⟩
  obtain ⟨lead, blanks, hpieces, hp, hblanks⟩ := hjoin
  have hplace : placeOf p = followAll [] lead := by
    rw [placeOf, hp, FileTree.followAll_append, FileTree.followAll_blanks hblanks]
  intro x hx
  rw [hpieces, FileTree.trail_append, List.mem_append] at hx
  rcases hx with hx | hx
  · refine htrail x ?_
    rw [hp, FileTree.trail_append]
    exact List.mem_append_left _ hx
  · simp only [FileTree.trail_cons, FileTree.trail_nil, List.mem_singleton] at hx
    rw [hx, ← hplace, hend]

/-! ## Writing -/

/-- The staged file and the target can be got at by way of directories. -/
structure IsReady (target : Path) (s : FileTree) : Prop where
  staged : ∀ x ∈ trail [] (stagingPath target).pieces, s.get? x = some .directory
  target : ∀ x ∈ trail [] target.pieces, s.get? x = some .directory ∨ x = placeOf target

lemma IsReady.mono (h : IsReady target s) (hkept : Confined own s s') : IsReady target s' :=
  ⟨fun x hx => hkept.kept x (h.staged x hx), fun x hx => (h.target x hx).imp_left (hkept.kept x)⟩

/-- A target is ready once its parent leads through directories to a directory. -/
lemma isReady_of_directories
    (hparent : ∀ parent, target.parent? = some parent →
      (∀ x ∈ trail [] parent.pieces, s.get? x = some .directory) ∧
        s.get? (placeOf parent) = some .directory) : IsReady target s := by
  cases hsome : target.parent? with
  | none =>
    obtain ⟨hname, hplace, htop⟩ := eq_nil_of_parent?_eq_none hsome
    have htrail : ∀ x ∈ trail [] target.pieces, s.get? x = some .directory := fun x hx => by
      rw [htop x hx]
      rfl
    have htarget : s.get? (placeOf target) = some .directory := by rw [hplace]; rfl
    refine ⟨?_, fun x hx => Or.inl (htrail x hx)⟩
    rw [stagingPath, Path.withFileName, hname]
    exact directories_join htrail htarget
  | some parent =>
    obtain ⟨htrail, hend⟩ := hparent parent hsome
    obtain ⟨last, hgoes⟩ := exists_goesOn hsome
    refine ⟨?_, fun x hx => ?_⟩
    · rcases hgoes.last with ⟨-, hname⟩ | ⟨hname, hdots⟩
      · rw [stagingPath, Path.withFileName, hname, hsome]
        exact directories_join htrail hend
      · -- the target itself is a directory: its parent, or the one above that
        have hlead : placeOf target <+: placeOf parent := by
          rw [hgoes.place]
          rcases hdots with rfl | ⟨rfl, -⟩
          · rw [FileTree.follow_up]
            exact List.dropLast_prefix _
          · exact List.prefix_rfl
        have htarget : s.get? (placeOf target) = some .directory :=
          FileTree.directory_of_prefix_followAll htrail hend hlead
        rw [stagingPath, Path.withFileName, hname]
        refine directories_join (fun x hx => ?_) htarget
        rcases hgoes.passed x hx with hx | rfl | rfl
        · exact htrail x hx
        · exact hend
        · exact htarget
    · rcases hgoes.passed x hx with hx | rfl | rfl
      · exact Or.inl (htrail x hx)
      · exact Or.inl hend
      · exact Or.inr rfl

section Write

variable (htarget : placeOf target ∈ land.own) (hstaged : placeOf (stagingPath target) ∈ land.own)

include htarget

/-- Creating the directory of a target makes the target ready. -/
lemma undisturbed_createParent (hwell : t.WellFormed)
    (hdetours : ∀ x ∈ t.detours goesUp [] target.pieces, x ∈ land.own) :
    (createParent target).Undisturbed land t ∧
      (((createParent target).run t).1 = .ok () →
        IsReady target ((createParent target).run t).2) := by
  unfold createParent
  cases hparent : target.parent? with
  | none =>
    refine ⟨trivial, fun _ => isReady_of_directories fun parent hsome => ?_⟩
    simp [hparent] at hsome
  | some parent =>
    obtain ⟨last, hgoes⟩ := exists_goesOn hparent
    obtain ⟨gap, blanks, hpieces⟩ := hgoes.pieces
    rw [hpieces] at hdetours
    have habove : (∃ o ∈ land.own, placeOf parent <+: o) ∨
        ∀ x, x <+: placeOf parent → t.get? x = some .directory := by
      rcases hgoes.last with ⟨hplain, -⟩ | ⟨-, rfl | ⟨-, htop⟩⟩
      · refine Or.inl ⟨placeOf target, htarget, ?_⟩
        rw [hgoes.place, FileTree.follow_plain hplain]
        exact List.prefix_append _ _
      · -- what is left by going up is a directory or a detour
        have hleft : t.get? (placeOf parent) = some .directory ∨
            placeOf parent ∈ t.detours goesUp [] (parent.pieces ++ (gap ++ ".." :: blanks)) :=
          FileTree.mem_detours_of_lead ⟨"..", by simp, rfl⟩
        rcases hleft with hdirectory | hdetour
        · refine Or.inr fun x hx => ?_
          by_cases heq : x = placeOf parent
          · exact heq ▸ hdirectory
          · exact hwell.directory_of_prefix hx heq (by simp [hdirectory])
        · exact Or.inl ⟨_, hdetours _ hdetour, List.prefix_rfl⟩
      · refine Or.inr fun x hx => ?_
        rw [placeOf, htop] at hx
        obtain rfl : x = [] := List.prefix_nil.1 hx
        rfl
    have hcreate := FileTree.undisturbed_createDirs hwell hgoes.trimmed
      (fun x hx => hdetours x (FileTree.mem_detours_append hx)) habove
    refine ⟨(Script.undisturbed_perform hcreate).bind trivial, fun hok => ?_⟩
    have hanswer : (t.createDirs parent).2 = .ok () := by
      change reportAt parent (t.createDirs parent).2 = .ok () at hok
      cases hresult : (t.createDirs parent).2 with
      | ok _ => rfl
      | error fault => simp [hresult, reportAt] at hok
    refine isReady_of_directories fun parent' hsome => ?_
    obtain rfl : parent = parent' := Option.some.inj (hparent.symm.trans hsome)
    exact FileTree.directories_of_createDirs hgoes.trimmed hanswer

include hstaged

lemma undisturbed_commitStaged (hready : IsReady target s) :
    (commitStaged (stagingPath target) target).Undisturbed land s := by
  have hrename : FileTree.Undisturbed land (.rename (stagingPath target) target) s :=
    FileTree.undisturbed_rename hstaged htarget (fun x hx => Or.inl (hready.staged x hx))
      fun x hx => (hready.target x hx).imp_right fun heq : x = placeOf target => heq ▸ htarget
  have hready' : IsReady target (s.perform (.rename (stagingPath target) target)).2 :=
    hready.mono hrename.confined
  refine (Script.undisturbed_perform hrename).bind ?_
  rw [Script.run_perform]
  cases (s.perform (.rename (stagingPath target) target)).1 with
  | ok _ => trivial
  | error fault =>
    exact (Script.undisturbed_perform (FileTree.undisturbed_remove hstaged fun x hx =>
      Or.inl (hready'.staged x hx))).bind trivial

/-- The owner of a target, of its staged file and of its detours writes undisturbed. -/
lemma undisturbed_writeStaged (hwell : t.WellFormed)
    (hdetours : ∀ x ∈ t.detours goesUp [] target.pieces, x ∈ land.own) (data : ByteArray) :
    (writeStaged target data).Undisturbed land t := by
  obtain ⟨hcreate, hready⟩ := undisturbed_createParent htarget hwell hdetours
  refine hcreate.bind ?_
  cases hcreated : ((createParent target).run t).1 with
  | error failure => trivial
  | ok _ =>
    have hready := hready hcreated
    have hwrite : FileTree.Undisturbed land (.write (stagingPath target) data)
        ((createParent target).run t).2 :=
      FileTree.undisturbed_write data hstaged fun x hx => Or.inl (hready.staged x hx)
    have hready' := hready.mono hwrite.confined
    refine (Script.undisturbed_perform hwrite).bind ?_
    rw [Script.run_perform]
    generalize ((createParent target).run t).2 = s at hwrite hready'
    cases (s.perform (.write (stagingPath target) data)).1 with
    | error fault => trivial
    | ok _ => exact undisturbed_commitStaged htarget hstaged hready'

end Write

/-- The owner of a file who watches its detours reads it undisturbed. -/
lemma undisturbed_readFile {p : Path} (hwell : t.WellFormed)
    (hown : placeOf p ∈ land.own)
    (hdetours : ∀ x ∈ t.detours goesAstray [] p.pieces, x ∈ land.watched) :
    (readFile p).Undisturbed land t := by
  refine (Script.undisturbed_perform (FileTree.undisturbed_read hwell hown hdetours)).bind ?_
  rw [Script.run_perform]
  cases (t.perform (.read p)).1 <;> trivial

lemma run_readFile (t : FileTree) (p : Path) : ∃ result, (readFile p).run t = (result, t) := by
  have hread : t.perform (.read p) = (t.read p, t) := rfl
  rw [readFile, Script.run_bind, Script.run_perform, hread]
  cases t.read p with
  | error fault => exact ⟨_, rfl⟩
  | ok data => exact ⟨_, rfl⟩

end Blueprint
