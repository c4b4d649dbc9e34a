import Blueprint.Proofs.FileTree.Growth
import Blueprint.Storage.Disk

/-!
# What a staged write changes

A file is written under another name first and then renamed into place.  This file says what becomes
of every place of the tree, whichever of the operations fails.

Until the staged file is written, nothing happens but that missing directories on the way to the
target are created (`Grows`).  From then on the staged file is either renamed over the target or
removed again (`stagedEnd_writeStaged`), so it never remains.  What stood in its place before does
not remain either: that is the one file beside the target that a write can cost.
-/

namespace Blueprint.FileTree

variable {t t' : FileTree} {p q : Path}

/-! ## Writing, renaming and removing -/

/-- A write puts a file where no directory stands, and passes directories on its way. -/
structure PutsFile (t : FileTree) (p : Path) (data : ByteArray) (t' : FileTree) : Prop where
  nonempty : placeOf p ≠ []
  free : t.get? (placeOf p) ≠ some .directory
  way : ∀ y ∈ trail [] p.pieces, t.get? y = some .directory
  named : ∃ directory name, t.locateEnd p = .ok (.name directory name false)
  eq : t' = t.put (placeOf p) (.file data)

lemma putsFile_of_write {data : ByteArray} (h : t.write p data = .ok t') :
    PutsFile t p data t' := by
  unfold write at h
  cases hend : t.locateEnd p with
  | error fault => simp [hend, bind, Except.bind] at h
  | ok pathEnd =>
    cases pathEnd with
    | dots => simp [hend, bind, Except.bind] at h
    | name directory name slashed =>
      simp only [hend, bind, Except.bind] at h
      by_cases hrefused : (slashed || t.hasDirectory (directory ++ [name])) = true
      · rw [if_pos hrefused] at h
        cases h
      · rw [if_neg hrefused] at h
        rw [Bool.or_eq_true, not_or, Bool.not_eq_true, hasDirectory_iff] at hrefused
        obtain ⟨rfl, hfree⟩ := hrefused
        have hplace := placeOf_of_locateEnd hend
        exact ⟨by simp [hplace], hplace ▸ hfree, directory_of_locateEnd hend,
          ⟨directory, name, hend⟩, hplace ▸ (Except.ok.inj h).symm⟩

lemma PutsFile.get?_eq {data : ByteArray} (h : PutsFile t p data t') (x : Place) :
    t'.get? x = if x = placeOf p then some (.file data) else t.get? x := by
  rw [h.eq, get?_put t h.nonempty]

/-- What was written can be removed again. -/
lemma PutsFile.remove_eq {data : ByteArray} (h : PutsFile t p data t') :
    t'.remove p = .ok (t'.erase (placeOf p)) := by
  obtain ⟨directory, name, hend⟩ := h.named
  have hend' : t'.locateEnd p = .ok (.name directory name false) := by
    refine (locateEnd_congr fun x hx => ?_).trans hend
    have hne : x ≠ placeOf p := by
      rintro rfl
      exact h.free (h.way _ hx)
    rw [h.get?_eq, if_neg hne]
  have hget : t'.get? (directory ++ [name]) = some (.file data) := by
    rw [h.get?_eq, placeOf_of_locateEnd hend, if_pos rfl]
  unfold remove
  rw [hend', placeOf_of_locateEnd hend]
  simp only [bind, Except.bind, hget]
  rfl

/-- A rename moves a file to where no directory stands, and passes directories on its way. -/
lemma rename_eq_ok (h : t.rename p q = .ok t') :
    ∃ data, t.get? (placeOf p) = some (.file data) ∧ placeOf q ≠ [] ∧
      t.get? (placeOf q) ≠ some .directory ∧
      (∀ y ∈ trail [] q.pieces, t.get? y = some .directory) ∧
      ∀ x, t'.get? x = if x = placeOf q then some (.file data)
        else if x = placeOf p then none else t.get? x := by
  unfold rename at h
  cases hold : t.locateEnd p with
  | error fault => simp [hold, bind, Except.bind] at h
  | ok old =>
    cases hnew : t.locateEnd q with
    | error fault => simp [hold, hnew, bind, Except.bind] at h
    | ok new =>
      cases old with
      | dots => simp [hold, hnew, bind, Except.bind] at h
      | name directory name slashed =>
        cases new with
        | dots => simp [hold, hnew, bind, Except.bind] at h
        | name directory' name' slashed' =>
          simp only [hold, hnew, bind, Except.bind] at h
          cases hget : t.get? (directory ++ [name]) with
          | none => simp [hget] at h
          | some node =>
            cases node with
            | directory => simp [hget] at h
            | file data =>
              simp only [hget] at h
              by_cases hslashed : (slashed || slashed') = true
              · rw [if_pos hslashed] at h
                cases h
              · rw [if_neg hslashed] at h
                by_cases hfree : t.hasDirectory (directory' ++ [name']) = true
                · rw [if_pos hfree] at h
                  cases h
                · rw [if_neg hfree] at h
                  obtain rfl := Except.ok.inj h
                  rw [Bool.or_eq_true, not_or, Bool.not_eq_true, Bool.not_eq_true] at hslashed
                  obtain ⟨rfl, rfl⟩ := hslashed
                  rw [placeOf_of_locateEnd hold, placeOf_of_locateEnd hnew]
                  refine ⟨data, hget, by simp, fun hthere => hfree (hasDirectory_iff.2 hthere),
                    directory_of_locateEnd hnew, fun x => ?_⟩
                  rw [get?_put _ (by simp), get?_erase t (by simp)]

end Blueprint.FileTree

namespace Blueprint

open FileTree (Place Grows placeOf trail followAll)
open Blueprint.Path (IsPlain)

variable {t : FileTree} {target parent : Path} {name : String}

/-! ## The place of a staged file -/

lemma followAll_joinLead (p : Path) : followAll [] p.joinLead = placeOf p := by
  rcases p.joinLead_cases with hpieces | hpieces
  · rw [placeOf, ← hpieces]
  · rw [placeOf, hpieces, FileTree.followAll_append]
    rfl

lemma placeOf_join_name (p : Path) (hplain : IsPlain name) :
    placeOf (p.join ⟨false, [name]⟩) = placeOf p ++ [name] := by
  have hjoin : (p.join ⟨false, [name]⟩).pieces = p.joinLead ++ [name] := by
    rw [Path.join_eq rfl (by simp)]
  rw [placeOf, hjoin, FileTree.followAll_append, FileTree.followAll_cons,
    FileTree.follow_plain hplain, followAll_joinLead]
  rfl

lemma isPlain_partial (name : String) : IsPlain (name ++ ".partial") := by
  have hlong : 8 ≤ (name ++ ".partial").length := by
    rw [String.length_append]
    exact Nat.le_add_left ..
  refine ⟨fun h => ?_, fun h => ?_, fun h => ?_⟩ <;> · rw [h] at hlong; revert hlong; decide

/-- A path that ends in a name leads to that name in its parent. -/
lemma exists_parent_of_fileName? (h : target.fileName? = some name) :
    ∃ parent, target.parent? = some parent ∧ placeOf target = placeOf parent ++ [name] := by
  rcases target.ends with ⟨-, -, hnone⟩ | ⟨init, last, hconcat, hparent, hlast⟩
  · simp [h] at hnone
  · rcases hlast with ⟨hplain, hname⟩ | ⟨-, hnone⟩ | ⟨-, -, hnone⟩
    · obtain rfl : last = name := Option.some.inj (hname.symm.trans h)
      obtain ⟨gap, blanks, hpieces, hgap, hblanks⟩ := Path.pieces_of_trimmed hconcat
      refine ⟨_, hparent, ?_⟩
      rw [placeOf, hpieces, FileTree.followAll_append, FileTree.followAll_append,
        FileTree.followAll_blanks hgap, FileTree.followAll_cons, FileTree.followAll_blanks hblanks,
        FileTree.follow_plain hplain]
      rfl
    · simp [h] at hnone
    · simp [h] at hnone

/-- The staged file lies beside its target, or in it if the target is no name. -/
lemma placeOf_stagingPath (target : Path) :
    (∃ directory name, target.fileName? = some name ∧ placeOf target = directory ++ [name] ∧
        placeOf (stagingPath target) = directory ++ [name ++ ".partial"]) ∨
      (target.fileName? = none ∧
        placeOf (stagingPath target) = placeOf target ++ ["output.partial"]) := by
  cases hname : target.fileName? with
  | none =>
    refine Or.inr ⟨rfl, ?_⟩
    rw [stagingPath, Path.withFileName, hname]
    exact placeOf_join_name target (isPlain_partial "output")
  | some name =>
    obtain ⟨parent, hparent, hplace⟩ := exists_parent_of_fileName? hname
    refine Or.inl ⟨placeOf parent, name, rfl, hplace, ?_⟩
    rw [stagingPath, Path.withFileName, hname, hparent]
    exact placeOf_join_name parent (isPlain_partial name)

lemma placeOf_stagingPath_ne (target : Path) : placeOf (stagingPath target) ≠ placeOf target := by
  rcases placeOf_stagingPath target with ⟨directory, name, -, htarget, hstaged⟩ | ⟨-, hstaged⟩
  · rw [htarget, hstaged]
    simp
  · rw [hstaged]
    simp

/-! ## The operations in a row -/

lemma grows_createParent (target : Path) (t : FileTree) :
    Grows (trail [] target.pieces) t ((createParent target).run t).2 := by
  unfold createParent
  cases hparent : target.parent? with
  | none => exact .refl _ t
  | some parent =>
    refine (FileTree.grows_createDirs parent).mono fun x hx => ?_
    obtain ⟨q, hq, rfl⟩ := List.mem_map.1 hx
    exact FileTree.mem_trail_of_ancestor hparent hq

/-- How a staged write can end.  In each case `t'` is the tree once directories were created. -/
inductive StagedEnd (target : Path) (data : ByteArray) (t : FileTree) :
    Except Failure Unit × FileTree → Prop
  /-- Nothing was written. -/
  | refused {t' : FileTree} (failure : Failure) (hgrows : Grows (trail [] target.pieces) t t') :
      StagedEnd target data t (.error failure, t')
  /-- A file was written and taken away again. -/
  | undone {t' t'' : FileTree} (failure : Failure) (hgrows : Grows (trail [] target.pieces) t t')
      (hfree : t'.get? (placeOf (stagingPath target)) ≠ some .directory)
      (hget : ∀ x, t''.get? x = if x = placeOf (stagingPath target) then none else t'.get? x) :
      StagedEnd target data t (.error failure, t'')
  /-- A file was written and moved into place. -/
  | done {t' t'' : FileTree} (hgrows : Grows (trail [] target.pieces) t t')
      (hway : ∀ y ∈ trail [] target.pieces, y ≠ placeOf (stagingPath target) ∧
        y ≠ placeOf target ∧ t'.get? y = some .directory)
      (hget : ∀ x, t''.get? x = if x = placeOf target then some (.file data)
        else if x = placeOf (stagingPath target) then none else t'.get? x) :
      StagedEnd target data t (.ok (), t'')

lemma stagedEnd_commitStaged {data : ByteArray} {t' written : FileTree}
    (hgrows : Grows (trail [] target.pieces) t t')
    (hwrites : FileTree.PutsFile t' (stagingPath target) data written) :
    StagedEnd target data t ((commitStaged (stagingPath target) target).run written) := by
  have hwritten := hwrites.get?_eq
  rw [commitStaged, Script.run_bind, Script.run_perform]
  cases hrename : written.rename (stagingPath target) target with
  | error fault =>
    have hperform : written.perform (.rename (stagingPath target) target) =
        (.error fault, written) := by
      rw [FileTree.perform, hrename]
      rfl
    have hremove : (written.perform (.remove (stagingPath target))).2 =
        written.erase (placeOf (stagingPath target)) := by
      rw [FileTree.perform, hwrites.remove_eq]
      rfl
    rw [hperform]
    dsimp only
    rw [Script.run_bind, Script.run_perform, hremove]
    refine .undone _ hgrows hwrites.free fun x => ?_
    rw [FileTree.get?_erase written hwrites.nonempty, hwritten]
    by_cases hx : x = placeOf (stagingPath target) <;> simp [hx]
  | ok moved =>
    have hperform : written.perform (.rename (stagingPath target) target) = (.ok (), moved) := by
      rw [FileTree.perform, hrename]
      rfl
    obtain ⟨bytes, hbytes, -, hfree, hway, hmoved⟩ := FileTree.rename_eq_ok hrename
    obtain rfl : data = bytes := by simpa [hwritten] using hbytes
    rw [hperform]
    refine .done hgrows (fun y hy => ?_) fun x => ?_
    · have hdirectory := hway y hy
      have hstaged : y ≠ placeOf (stagingPath target) := by
        rintro rfl
        simp [hwritten] at hdirectory
      have htarget : y ≠ placeOf target := by
        rintro rfl
        exact hfree hdirectory
      rw [hwritten, if_neg hstaged] at hdirectory
      exact ⟨hstaged, htarget, hdirectory⟩
    · rw [hmoved, hwritten]
      by_cases hx : x = placeOf (stagingPath target) <;> simp [hx]

lemma stagedEnd_writeStaged (target : Path) (data : ByteArray) (t : FileTree) :
    StagedEnd target data t ((writeStaged target data).run t) := by
  have hgrows := grows_createParent target t
  rw [writeStaged, Script.run_bind]
  generalize (createParent target).run t = created at hgrows
  obtain ⟨result, t'⟩ := created
  cases result with
  | error failure => exact .refused failure hgrows
  | ok _ =>
    dsimp only at hgrows ⊢
    rw [Script.run_bind, Script.run_perform]
    cases hwrite : t'.write (stagingPath target) data with
    | error fault =>
      have hperform : t'.perform (.write (stagingPath target) data) = (.error fault, t') := by
        rw [FileTree.perform, hwrite]
        rfl
      rw [hperform]
      exact .refused _ hgrows
    | ok written =>
      have hperform : t'.perform (.write (stagingPath target) data) = (.ok (), written) := by
        rw [FileTree.perform, hwrite]
        rfl
      rw [hperform]
      exact stagedEnd_commitStaged hgrows (FileTree.putsFile_of_write hwrite)

/-- **A staged write touches its target and its staged file only.**  If it succeeds, the target
holds the data, nothing stands at the staged file, the path to the target leads through directories,
and all other places are as before.  If it fails, every file that was there is still there with its
content, the target included, no new file is there, and new directories are found on the way to the
target only.  The one exception is a file that stood at the place of the staged file: it is lost. -/
theorem write_changes_target_and_staged_only (base : Path) (path : String) (data : ByteArray)
    (t : FileTree) :
    let target := base.join (.ofText path)
    let staged := stagingPath target
    let result := ((diskStorage base).write path data).run t
    placeOf staged ≠ placeOf target ∧
      ((result.1 = .ok () ∧
          (∀ x ∈ trail [] target.pieces, t.get? x = none ∨ t.get? x = some .directory) ∧
          ∀ x, result.2.get? x =
            if x = placeOf target then some (.file data)
            else if x = placeOf staged then none
            else if x ∈ trail [] target.pieces then some .directory
            else t.get? x) ∨
        ∃ failure, result.1 = .error failure ∧
          (∀ x bytes, t.get? x = some (.file bytes) → x ≠ placeOf staged →
            result.2.get? x = some (.file bytes)) ∧
          (∀ x bytes, result.2.get? x = some (.file bytes) → t.get? x = some (.file bytes)) ∧
          (∀ x, t.get? x = some .directory → result.2.get? x = some .directory) ∧
          ∀ x, result.2.get? x = some .directory →
            t.get? x = some .directory ∨ x ∈ trail [] target.pieces) := by
  intro target staged result
  have hend : StagedEnd target data t result := stagedEnd_writeStaged target data t
  refine ⟨placeOf_stagingPath_ne target, ?_⟩
  generalize result = ended at hend
  cases hend with
  | refused failure hgrows =>
    exact Or.inr ⟨failure, rfl, fun x bytes hx _ => hgrows.file_iff.2 hx,
      fun x bytes hx => hgrows.file_iff.1 hx, fun x hx => hgrows.directory hx,
      fun x hx => hgrows.mem_of_new hx⟩
  | @undone t' t'' failure hgrows hfree hget =>
    have hkept : ∀ x node, t''.get? x = some node ↔ x ≠ placeOf staged ∧ t'.get? x = some node := by
      intro x node
      rw [hget]
      by_cases hx : x = placeOf staged <;> simp [staged, hx]
    refine Or.inr ⟨failure, rfl, fun x bytes hx hne => ?_, fun x bytes hx => ?_, fun x hx => ?_,
      fun x hx => ?_⟩
    · exact (hkept x _).2 ⟨hne, hgrows.file_iff.2 hx⟩
    · exact hgrows.file_iff.1 ((hkept x _).1 hx).2
    · refine (hkept x _).2 ⟨?_, hgrows.directory hx⟩
      rintro rfl
      exact hfree (hgrows.directory hx)
    · exact hgrows.mem_of_new ((hkept x _).1 hx).2
  | done hgrows hway hget =>
    refine Or.inl ⟨rfl, fun x hx => ?_, fun x => ?_⟩
    · rcases hgrows x with heq | ⟨hnone, -, -⟩
      · exact Or.inr (heq ▸ (hway x hx).2.2)
      · exact Or.inl hnone
    · rw [hget]
      by_cases hx : x ∈ trail [] target.pieces
      · obtain ⟨hstaged, htarget, hdirectory⟩ := hway x hx
        rw [if_neg htarget, if_neg hstaged, if_neg htarget, if_neg hstaged, if_pos hx, hdirectory]
      · have hsame : _ := (hgrows x).resolve_right fun h => hx h.2.2
        rw [if_neg hx, hsame]

/-- A file that has the name of the staged file is lost, whether the write succeeds or, because the
target is a directory, does not. -/
theorem write_loses_staged_name :
    let notes : FileTree := ⟨[(["User.kt.partial"], .file "notes".toUTF8)]⟩
    let result := ((diskStorage workingDirectory).write "User.kt" "class User()".toUTF8).run notes
    let blocked := notes.put ["User.kt"] .directory
    let refused :=
      ((diskStorage workingDirectory).write "User.kt" "class User()".toUTF8).run blocked
    placeOf (.ofText "User.kt") = ["User.kt"] ∧
      (notes.get? ["User.kt.partial"]).isSome = true ∧ result.1.isOk = true ∧
      (result.2.get? ["User.kt.partial"]).isNone = true ∧
      (blocked.get? ["User.kt.partial"]).isSome = true ∧ refused.1.isOk = false ∧
      (refused.2.get? ["User.kt.partial"]).isNone = true := by
  decide +kernel

end Blueprint
