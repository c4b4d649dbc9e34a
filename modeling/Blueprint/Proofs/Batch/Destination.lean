import Blueprint.Batch.Plan
import Blueprint.Proofs.Path.Combine

/-!
# Where the code of a document goes

What leads to a document from the source directory leads on from the destination directory, and the
extension is exchanged.  The stem of the document stays in its destination, so that no two documents
share one.

There is one exception to the rule that the destination is named for the stem.  The extension of
`..toml` is cut off before the new one is put on, which leaves the two dots of a parent directory.
Destinations of such documents end in `..`, and are still different from all others.
-/

namespace Blueprint.Batch

open Blueprint.Path (IsPlain IsOnward componentsOf renamed)

variable {settings : BatchSettings} {source other : Path} {steps steps' : List Component}

/-- A file below the source directory that has the source extension, with the way to it. -/
structure IsSource (settings : BatchSettings) (source : Path) (steps : List Component) : Prop where
  components : source.components = settings.sourceDir.components ++ steps
  below : steps ≠ []
  onward : IsOnward steps
  extension : source.extension? = some settings.sourceExtension

/-- An extension that passes its check is a text without slashes. -/
lemma extension_of_check {field value : String} (h : Check.extension field value = .ok ()) :
    value ≠ "" ∧ '/' ∉ value.toList := by
  rw [Check.extension] at h
  constructor
  · rintro rfl
    cases h
  · intro hslash
    by_cases hblank : (Text.trim value.toList).isEmpty = true
    · rw [if_pos hblank] at h
      cases h
    · rw [if_neg hblank, if_pos (by simp [hslash])] at h
      cases h

/-- The way to a source ends in its name. -/
lemma IsSource.exists_name (h : IsSource settings source steps) :
    ∃ init name stem, steps = init ++ [.normal name] ∧ source.stem? = some stem ∧
      Path.splitName name = (stem, some settings.sourceExtension) := by
  obtain ⟨name, hname, hsplit⟩ := Option.bind_eq_some_iff.1 h.extension
  obtain ⟨init, last, rfl⟩ := (List.eq_nil_or_concat' steps).resolve_left h.below
  have hlast : source.components.getLast? = some last := by
    rw [h.components, ← List.append_assoc, List.getLast?_concat]
  cases last with
  | normal other =>
    obtain rfl : other = name := by simpa [Path.fileName?, hlast] using hname
    refine ⟨init, other, (Path.splitName other).1, rfl, ?_, Prod.ext rfl hsplit⟩
    rw [Path.stem?, hname, Option.map_some]
  | root => simp [Path.fileName?, hlast] at hname
  | current => simp [Path.fileName?, hlast] at hname
  | parent => simp [Path.fileName?, hlast] at hname

/-- The spelling of a destination: what leads to the source from the source directory follows the
destination directory, with another name at its end. -/
lemma destinationFor_eq (hextension : settings.targetExtension ≠ "")
    (h : IsSource settings source steps) :
    ∃ dirs name stem, steps = componentsOf true dirs ++ [.normal name] ∧
      source.stem? = some stem ∧ Path.splitName name = (stem, some settings.sourceExtension) ∧
      destinationFor settings source =
        { settings.destDir with
          pieces := settings.destDir.joinLead ++
            (dirs ++ [renamed stem settings.targetExtension]) } := by
  obtain ⟨init, name, stem, rfl, hstem, hsplit⟩ := h.exists_name
  obtain ⟨pieces, hrelative, htrimmed, hsteps⟩ := Path.relativeTo?_eq h.components h.onward
  have hcomponents : (Path.mk false pieces).components = init ++ [.normal name] := hsteps
  have hname : (Path.mk false pieces).fileName? = some name := by
    rw [Path.fileName?, hcomponents, List.getLast?_concat]
  have hself : (Path.mk false pieces).trimmed.pieces = pieces := htrimmed
  rcases (Path.mk false pieces).ends with ⟨-, -, hnone⟩ | ⟨dirs, last, hpieces, -, hlast⟩
  · simp [hnone] at hname
  · rw [hself] at hpieces
    rcases hlast with ⟨hplain, hsome⟩ | ⟨-, hnone⟩ | ⟨-, -, hnone⟩
    · obtain rfl : last = name := Option.some.inj (hsome.symm.trans hname)
      refine ⟨dirs, last, stem, ?_, hstem, hsplit, ?_⟩
      · rw [← hsteps, hpieces, Path.componentsOf_concat, hplain.component?]
        rfl
      · have hjoin := Path.join_eq (p := settings.destDir) (q := ⟨false, pieces⟩) rfl
          (by simp [hpieces])
        have hend : ({ settings.destDir with
            pieces := settings.destDir.joinLead ++ pieces } : Path).pieces =
              settings.destDir.joinLead ++ dirs ++ [last] := by simp [hpieces]
        rw [destinationFor, relativeSource, hrelative, Option.getD_some, hjoin,
          Path.withExtension_eq hend hplain hsplit hextension, List.append_assoc]
    · simp [hnone] at hname
    · simp [hnone] at hname

/-- The last component of a destination. -/
def destinationEnd (stem extension : String) : Component :=
  if stem = "." then .parent else .normal (stem ++ "." ++ extension)

lemma destinationEnd_injective {stem stem' extension : String}
    (h : destinationEnd stem extension = destinationEnd stem' extension) : stem = stem' := by
  unfold destinationEnd at h
  by_cases hdot : stem = "." <;> by_cases hdot' : stem' = "."
  · rw [hdot, hdot']
  · simp [hdot, hdot'] at h
  · simp [hdot, hdot'] at h
  · simpa [hdot, hdot'] using h

lemma components_destinationFor (hextension : settings.targetExtension ≠ "")
    (h : IsSource settings source steps) :
    ∃ init name stem, steps = init ++ [.normal name] ∧ source.stem? = some stem ∧
      name = stem ++ "." ++ settings.sourceExtension ∧
      (destinationFor settings source).components =
        settings.destDir.components ++ init ++
          [destinationEnd stem settings.targetExtension] := by
  obtain ⟨dirs, name, stem, rfl, hstem, hsplit, hdestination⟩ := destinationFor_eq hextension h
  obtain ⟨hname, hne, -⟩ := Path.eq_of_splitName hsplit
  refine ⟨componentsOf true dirs, name, stem, rfl, hstem, hname, ?_⟩
  have hend : ∀ leading, Path.component? leading (renamed stem settings.targetExtension) =
      some (destinationEnd stem settings.targetExtension) := by
    intro leading
    rw [renamed, destinationEnd]
    by_cases hdot : stem = "."
    · simp [hdot, Path.component?]
    · rw [if_neg hdot, if_neg hdot]
      exact (Path.isPlain_append_dot hne _ fun h => absurd h hdot).component?
  have hpieces : componentsOf true (dirs ++ [renamed stem settings.targetExtension]) =
      componentsOf true dirs ++ [destinationEnd stem settings.targetExtension] := by
    rw [Path.componentsOf_concat, hend]
    rfl
  rw [hdestination, Path.components_append, hpieces, List.append_assoc]
  have hinit : .current ∉ componentsOf true dirs := fun hmem =>
    h.onward.2 (List.mem_append_left _ hmem)
  rw [hpieces, List.mem_append, List.mem_singleton, not_or]
  refine ⟨hinit, ?_⟩
  unfold destinationEnd
  by_cases hdot : stem = "." <;> simp [hdot]

/-- **No two documents share a destination.**  Each document below the source directory has a
destination in the same relative directory below the destination directory.  It is named for the
stem of the document, unless the stem is a single dot; then it is no file, but the directory above.
Documents with different paths have different destinations, those with a dot for a stem included. -/
theorem destinationFor_named_for_stem_iff {field : String}
    (hextension : Check.extension field settings.targetExtension = .ok ())
    (hsource : IsSource settings source steps) :
    destinationFor? settings source = some (destinationFor settings source) ∧
      (∃ stem, source.stem? = some stem ∧
        ((destinationFor settings source).components =
            settings.destDir.components ++ steps.dropLast ++
              [.normal (stem ++ "." ++ settings.targetExtension)] ↔ stem ≠ ".") ∧
        (stem = "." → (destinationFor settings source).components =
          settings.destDir.components ++ steps.dropLast ++ [.parent])) ∧
      ∀ other steps', IsSource settings other steps' → other.components ≠ source.components →
        (destinationFor settings other).components ≠
          (destinationFor settings source).components := by
  obtain ⟨hne, hslash⟩ := extension_of_check hextension
  obtain ⟨init, name, stem, rfl, hstem, hname, hcomponents⟩ :=
    components_destinationFor hne hsource
  refine ⟨?_, ⟨stem, hstem, ?_, ?_⟩, fun other steps' hother hdifferent heq => hdifferent ?_⟩
  · rw [destinationFor?, Path.withExtension?, if_neg (by simpa using hslash)]
    rfl
  · rw [hcomponents, List.dropLast_concat, List.append_cancel_left_eq]
    unfold destinationEnd
    by_cases hdot : stem = "." <;> simp [hdot]
  · intro hdot
    rw [hcomponents, List.dropLast_concat, destinationEnd, if_pos hdot]
  · obtain ⟨init', name', stem', rfl, hstem', hname', hcomponents'⟩ :=
      components_destinationFor hne hother
    rw [hcomponents, hcomponents', List.append_assoc, List.append_assoc,
      List.append_cancel_left_eq] at heq
    obtain ⟨rfl, hend⟩ := List.append_inj' heq rfl
    obtain rfl := destinationEnd_injective (List.singleton_inj.1 hend)
    rw [hother.components, hsource.components, hname, hname']

/-- Names with several dots, one of which holds the target extension already, and a way that goes up
again. -/
theorem destinationFor_named_for_stem_iff_several_dots :
    let settings : BatchSettings := ⟨.ofText "src/arch/", .ofText "out", "toml", "kt", true, 8⟩
    let source := Path.ofText "src/./arch/users/.user.kt.toml"
    let other := Path.ofText "src/arch/users/../.user.kt.toml"
    (Check.extension "batch.target_extension" settings.targetExtension = .ok () ∧
        IsSource settings source [.normal "users", .normal ".user.kt.toml"] ∧
        IsSource settings other [.normal "users", .parent, .normal ".user.kt.toml"]) ∧
      source.stem? = some ".user.kt" ∧
      (destinationFor settings source).components =
        [.normal "out", .normal "users", .normal ".user.kt.kt"] ∧
      (destinationFor settings other).components ≠
        (destinationFor settings source).components := by
  intro settings source other
  have hextension :
      Check.extension "batch.target_extension" settings.targetExtension = .ok () := by
    rw [Check.extension, if_neg (by decide +kernel), if_neg (by decide +kernel)]
  have hsource : IsSource settings source [.normal "users", .normal ".user.kt.toml"] :=
    ⟨by decide +kernel, by simp, by simp [IsOnward], by decide +kernel⟩
  have hother : IsSource settings other [.normal "users", .parent, .normal ".user.kt.toml"] :=
    ⟨by decide +kernel, by simp, by simp [IsOnward], by decide +kernel⟩
  have hstem : source.stem? = some ".user.kt" := by decide +kernel
  obtain ⟨-, ⟨stem, hstem', hnamed, -⟩, hdifferent⟩ :=
    destinationFor_named_for_stem_iff hextension hsource
  obtain rfl : stem = ".user.kt" := Option.some.inj (hstem'.symm.trans hstem)
  refine ⟨⟨hextension, hsource, hother⟩, hstem, (hnamed.2 (by decide)).trans ?_,
    hdifferent other _ hother (by decide +kernel)⟩
  decide +kernel

/-- The document `..toml` has the stem `.`, and its destination is not `..kt` in the destination
directory but the directory above that. -/
theorem destinationFor_dot_stem :
    let settings : BatchSettings := ⟨.ofText "arch", .ofText "out", "toml", "kt", true, 8⟩
    let source := Path.ofText "arch/..toml"
    Check.extension "batch.source_extension" settings.sourceExtension = .ok () ∧
      Check.extension "batch.target_extension" settings.targetExtension = .ok () ∧
      IsSource settings source [.normal "..toml"] ∧ source.stem? = some "." ∧
      (destinationFor settings source).components ≠
        settings.destDir.components ++ [.normal ("." ++ "." ++ settings.targetExtension)] ∧
      (destinationFor settings source).text = "out/.." := by
  intro settings source
  refine ⟨?_, ?_, ⟨by decide +kernel, by simp, by simp [IsOnward], by decide +kernel⟩,
    by decide +kernel, by decide +kernel, by decide +kernel⟩
  · rw [Check.extension, if_neg (by decide +kernel), if_neg (by decide +kernel)]
  · rw [Check.extension, if_neg (by decide +kernel), if_neg (by decide +kernel)]

end Blueprint.Batch
