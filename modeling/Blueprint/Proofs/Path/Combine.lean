import Blueprint.Proofs.DottedName
import Blueprint.Proofs.Path

/-!
# Combining paths

Paths are taken apart, joined and given another extension by their spellings, and compared by their
components.  This file says what each of these operations does to components: what a path adds to
one above it are the components that follow (`relativeTo?_eq`), joined pieces add theirs
(`components_append`), and another extension changes the last of them (`withExtension_eq`).

A path that leads on from another must not start anew, with a slash or a dot of its own; the ways
that do not are called onward.
-/

namespace Blueprint.Path

variable {p q base : Path} {leading : Bool} {piece name stem old extension : String}
  {init pieces rest : List String} {steps : List Component}

/-! ## Components of joined pieces -/

lemma componentsOf_false (pieces : List String) :
    componentsOf false pieces = pieces.filterMap (component? false) := by
  cases pieces with
  | nil => rfl
  | cons piece rest =>
    cases hpiece : component? false piece <;> simp [componentsOf, hpiece]

lemma componentsOf_append (init rest : List String) :
    componentsOf leading (init ++ rest) =
      componentsOf leading init ++ componentsOf (leading && init.isEmpty) rest := by
  cases init with
  | nil => simp [componentsOf]
  | cons first others =>
    rw [List.isEmpty_cons, Bool.and_false, componentsOf_false rest]
    simp only [List.cons_append, componentsOf, List.filterMap_append, List.append_assoc]

/-- A dot counts only at the start of a relative path, and shows there. -/
lemma componentsOf_of_no_dot (h : Component.current ∉ componentsOf true pieces) :
    componentsOf leading pieces = componentsOf true pieces := by
  cases pieces with
  | nil => rfl
  | cons piece rest =>
    have hdot : piece ≠ "." := by
      rintro rfl
      exact h (by simp [componentsOf, component?])
    have hpiece : component? leading piece = component? true piece := by
      simp [component?, hdot]
    rw [componentsOf, componentsOf, hpiece]

lemma components_eq_append (p : Path) :
    p.components = (if p.absolute then [.root] else []) ++ componentsOf (!p.absolute) p.pieces := by
  rw [components]
  cases p.absolute <;> rfl

/-! ## What a path adds to a path above it -/

lemma componentsOf_dropComponents (count : Nat) (pieces : List String) :
    componentsOf false (dropComponents count false pieces) =
      (componentsOf false pieces).drop count := by
  induction pieces generalizing count with
  | nil => cases count <;> simp [dropComponents, componentsOf]
  | cons piece rest ih =>
    cases count with
    | zero => simp [dropComponents]
    | succ count =>
      rw [dropComponents]
      cases hpiece : component? false piece with
      | none => simpa [componentsOf_false, hpiece] using ih (count + 1)
      | some component => simpa [componentsOf_false, hpiece] using ih count

lemma componentsOf_dropComponents_succ (leading : Bool) (count : Nat) (pieces : List String) :
    componentsOf false (dropComponents (count + 1) leading pieces) =
      (componentsOf leading pieces).drop (count + 1) := by
  cases pieces with
  | nil => rfl
  | cons piece rest =>
    rw [dropComponents, componentsOf, ← componentsOf_false]
    cases hpiece : component? leading piece with
    | none => simpa using componentsOf_dropComponents (count + 1) rest
    | some component => simpa using componentsOf_dropComponents count rest

/-- Pieces without the meaningless ones at the start mean the same wherever they stand. -/
lemma componentsOf_dropMeaningless (leading : Bool) (pieces : List String) :
    componentsOf leading (dropMeaningless pieces) = componentsOf false pieces := by
  induction pieces with
  | nil => rfl
  | cons piece rest ih =>
    rw [dropMeaningless, List.dropWhile_cons]
    cases hpiece : component? false piece with
    | none =>
      rw [if_pos (by rfl), ← dropMeaningless, ih, componentsOf_false, componentsOf_false,
        List.filterMap_cons_none hpiece]
    | some component =>
      have hdot : piece ≠ "." := by
        rintro rfl
        simp [component?] at hpiece
      have hleading : component? leading piece = component? false piece := by
        simp [component?, hdot]
      rw [if_neg (by simp), componentsOf, componentsOf, hleading]

/-- A way on from a directory: names and steps up, but nothing that starts a path anew. -/
def IsOnward (steps : List Component) : Prop :=
  .root ∉ steps ∧ .current ∉ steps

lemma relativeTo?_eq (h : p.components = base.components ++ steps) (honward : IsOnward steps) :
    ∃ pieces, p.relativeTo? base = some ⟨false, pieces⟩ ∧ trimPieces true pieces = pieces ∧
      componentsOf true pieces = steps := by
  have hlead : base.components.isPrefixOf p.components = true := by
    rw [List.isPrefixOf_iff_prefix, h]
    exact List.prefix_append _ _
  by_cases hempty : base.components.length = 0
  · have hsteps : p.components = steps := by
      rw [h, List.eq_nil_of_length_eq_zero hempty, List.nil_append]
    have habsolute : p.absolute = false := by
      cases habsolute : p.absolute with
      | false => rfl
      | true =>
        refine absurd ?_ honward.1
        rw [← hsteps, components, habsolute]
        simp
    refine ⟨trimPieces true p.pieces, ?_, trimPieces_trimPieces .., ?_⟩
    · simp [relativeTo?, hlead, hempty, trimmed, habsolute]
    · rw [componentsOf_trimPieces, ← hsteps, components, habsolute]
      rfl
  · refine ⟨_, by simp only [relativeTo?, hlead, hempty, trimmed]; rfl,
      trimPieces_trimPieces .., ?_⟩
    rw [componentsOf_trimPieces, componentsOf_dropMeaningless]
    obtain ⟨count, hcount⟩ := Nat.exists_eq_succ_of_ne_zero hempty
    have hsteps : p.components.drop (count + 1) = steps := by
      rw [h, ← Nat.succ_eq_add_one, ← hcount, List.drop_left]
    rw [hcount, ← hsteps, components]
    cases p.absolute with
    | true => exact componentsOf_dropComponents count p.pieces
    | false => exact componentsOf_dropComponents_succ true count p.pieces

/-! ## Joined paths -/

/-- The pieces of a path that are kept when another is joined to it. -/
def joinLead (p : Path) : List String :=
  if p.pieces.getLast? = some "" then p.pieces.dropLast else p.pieces

lemma joinLead_cases (p : Path) : p.pieces = p.joinLead ∨ p.pieces = p.joinLead ++ [""] := by
  by_cases hslash : p.pieces.getLast? = some ""
  · right
    rw [joinLead, if_pos hslash, List.dropLast_append_getLast? "" hslash]
  · left
    rw [joinLead, if_neg hslash]

lemma joinLead_prefix (p : Path) : p.joinLead <+: p.pieces := by
  rcases p.joinLead_cases with hpieces | hpieces
  · exact hpieces ▸ List.prefix_rfl
  · exact ⟨[""], hpieces.symm⟩

lemma join_eq (habsolute : q.absolute = false) (hpieces : q.pieces ≠ []) :
    p.join q = { p with pieces := p.joinLead ++ q.pieces } := by
  rw [join, joinLead, habsolute]
  by_cases hslash : p.pieces.getLast? = some "" <;> simp [hslash, hpieces]

lemma components_joinLead (p : Path) :
    p.components =
      (if p.absolute then [.root] else []) ++ componentsOf (!p.absolute) p.joinLead := by
  rw [components_eq_append]
  rcases p.joinLead_cases with hpieces | hpieces
  · rw [← hpieces]
  · rw [hpieces, componentsOf_concat]
    simp [component?]

/-- Pieces that lead on add their components to a path. -/
lemma components_append (honward : .current ∉ componentsOf true pieces) :
    ({ p with pieces := p.joinLead ++ pieces } : Path).components =
      p.components ++ componentsOf true pieces := by
  rw [components_joinLead p, components_eq_append, componentsOf_append,
    componentsOf_of_no_dot honward, List.append_assoc]

/-! ## Names and extensions -/

/-- Only pieces without a meaning stand around the last piece of a path that has one. -/
lemma pieces_of_trimmed {last : String} (h : p.trimmed.pieces = init ++ [last]) :
    ∃ gap blanks, p.pieces = trimPieces (!p.absolute) init ++ (gap ++ last :: blanks) ∧
      (∀ blank ∈ gap, IsBlank blank) ∧ ∀ blank ∈ blanks, IsBlank blank := by
  obtain ⟨blanks, hpieces, hblanks⟩ := exists_trimPieces_append (!p.absolute) p.pieces
  obtain ⟨gap, hinit, hgap⟩ := exists_trimPieces_append (!p.absolute) init
  have hkept : trimPieces (!p.absolute) p.pieces = init ++ [last] := h
  refine ⟨gap, blanks, ?_, hgap, hblanks⟩
  rw [hpieces, hkept, ← List.append_assoc, ← hinit]
  simp

lemma trimmed_of_plain (hpieces : p.pieces = init ++ [name]) (hplain : IsPlain name) :
    p.trimmed = p := by
  rw [trimmed, hpieces, trimPieces_concat, hplain.component?, if_pos (by rfl), ← hpieces]

lemma fileName?_of_plain (hpieces : p.pieces = init ++ [name]) (hplain : IsPlain name) :
    p.fileName? = some name := by
  rw [fileName?, components_eq_append, hpieces, componentsOf_concat, hplain.component?,
    Option.toList_some, ← List.append_assoc, List.getLast?_concat]

lemma fileName?_of_up (hpieces : p.pieces = init ++ [".."]) : p.fileName? = none := by
  have hup : component? (!p.absolute && init.isEmpty) ".." = some .parent := by simp [component?]
  rw [fileName?, components_eq_append, hpieces, componentsOf_concat, hup, Option.toList_some,
    ← List.append_assoc, List.getLast?_concat]

/-- A name with an extension is its stem, a dot and the extension. -/
lemma eq_of_splitName (h : splitName name = (stem, some old)) :
    name = stem ++ "." ++ old ∧ stem ≠ "" ∧ '.' ∉ old.toList := by
  by_cases hdot : '.' ∈ name.toList
  · obtain ⟨before, after, hcut, hafter⟩ := Text.exists_last_cut hdot
    rw [splitName, hcut, Text.beforeLast?_append_cons hafter,
      Text.afterLast_append_cons hafter] at h
    by_cases hbefore : before = []
    · simp [hbefore] at h
    · simp only [List.isEmpty_iff, hbefore, if_false, Prod.mk.injEq, Option.some.injEq] at h
      obtain ⟨rfl, rfl⟩ := h
      refine ⟨?_, by simpa using hbefore, by simpa using hafter⟩
      rw [← String.toList_inj]
      simp [hcut]
  · simp [splitName, Text.beforeLast?, hdot] at h

lemma splitName_append_dot (hstem : stem ≠ "") (hold : '.' ∉ old.toList) :
    splitName (stem ++ "." ++ old) = (stem, some old) := by
  have hcut : (stem ++ "." ++ old).toList = stem.toList ++ '.' :: old.toList := by simp
  rw [splitName, hcut, Text.beforeLast?_append_cons hold, Text.afterLast_append_cons hold]
  simp [hstem]

/-- Text around a dot is a name, unless it is made of two dots. -/
lemma isPlain_append_dot (hstem : stem ≠ "") (extension : String)
    (hdots : stem = "." → extension ≠ "") : IsPlain (stem ++ "." ++ extension) := by
  have hchars : (stem ++ "." ++ extension).toList = stem.toList ++ '.' :: extension.toList := by
    simp
  have hne : stem.toList ≠ [] := by simpa using hstem
  obtain ⟨c, rest, hstemChars⟩ := List.exists_cons_of_ne_nil hne
  rw [hstemChars] at hchars
  refine ⟨fun h => ?_, fun h => ?_, fun h => ?_⟩
  · simp [h] at hchars
  · simp [h] at hchars
  · have htwo : "..".toList = ['.', '.'] := by decide
    rw [h, htwo] at hchars
    obtain ⟨rfl, hrest⟩ := List.cons.inj hchars
    have hnil : rest = [] ∧ extension.toList = [] := by
      cases rest with
      | nil => simpa using hrest
      | cons d others => simp at hrest
    refine hdots ?_ (by simpa using hnil.2)
    rw [← String.toList_inj, hstemChars, hnil.1]
    rfl

lemma withLastPiece_eq (hpieces : p.pieces = init ++ [name]) (hplain : IsPlain name)
    (piece : String) : p.withLastPiece piece = { p with pieces := init ++ [piece] } := by
  rw [withLastPiece, trimmed_of_plain hpieces hplain, hpieces, List.dropLast_concat]

/-- What a name becomes when another extension is put on.  The old one is cut off before, and a dot
that is left of the name becomes two. -/
def renamed (stem extension : String) : String :=
  if stem = "." then ".." else stem ++ "." ++ extension

lemma withExtension_eq (hpieces : p.pieces = init ++ [name]) (hplain : IsPlain name)
    (hsplit : splitName name = (stem, some old)) (hextension : extension ≠ "") :
    p.withExtension extension = { p with pieces := init ++ [renamed stem extension] } := by
  obtain ⟨-, hstem, -⟩ := eq_of_splitName hsplit
  let cut : Path := { p with pieces := init ++ [stem ++ "."] }
  have hcut : p.withExtension extension = cut.setExtension extension := by
    rw [withExtension, if_pos (trimmed_of_plain hpieces hplain).symm, cutExtension,
      fileName?_of_plain hpieces hplain]
    simp only [hsplit, withLastPiece_eq hpieces hplain, cut]
  rw [hcut, setExtension, stem?, renamed]
  by_cases hdot : stem = "."
  · have hup : cut.pieces = init ++ [".."] := by simp [cut, hdot]
    rw [fileName?_of_up hup, if_pos hdot]
    exact congrArg (Path.mk p.absolute) hup
  · have hcutPlain : IsPlain (stem ++ ".") := by
      simpa using isPlain_append_dot hstem "" fun h => absurd h hdot
    have hcutSplit : splitName (stem ++ ".") = (stem, some "") := by
      have hnone : '.' ∉ "".toList := by simp
      simpa using splitName_append_dot hstem hnone
    have hcutPieces : cut.pieces = init ++ [stem ++ "."] := rfl
    rw [fileName?_of_plain hcutPieces hcutPlain, Option.map_some, hcutSplit, if_neg hdot]
    simp only [if_neg hextension, withLastPiece_eq hcutPieces hcutPlain, cut]

end Blueprint.Path
