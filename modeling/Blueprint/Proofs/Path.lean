import Blueprint.Path
import Mathlib.Data.List.Basic
import Mathlib.Data.List.Induction

/-!
# Ends of paths

How a path ends decides its parent and its file name.  `ends` is the one case distinction behind
both: a path without components has neither; otherwise the last piece that means something is a
name, or it is dots.
-/

namespace Blueprint.Path

/-- A piece that is a name. -/
structure IsPlain (piece : String) : Prop where
  ne_empty : piece ≠ ""
  ne_dot : piece ≠ "."
  ne_up : piece ≠ ".."

/-- A piece that means nothing. -/
def IsBlank (piece : String) : Prop :=
  piece = "" ∨ piece = "."

variable {leading : Bool} {piece : String} {pieces : List String}

lemma IsPlain.component? (h : IsPlain piece) :
    Path.component? leading piece = some (.normal piece) := by
  rw [Path.component?, if_neg h.ne_empty, if_neg h.ne_dot, if_neg h.ne_up]

/-- A piece is blank, leads up or is a name. -/
lemma piece_cases (piece : String) : IsBlank piece ∨ piece = ".." ∨ IsPlain piece := by
  by_cases hempty : piece = ""
  · exact Or.inl (Or.inl hempty)
  · by_cases hdot : piece = "."
    · exact Or.inl (Or.inr hdot)
    · by_cases hup : piece = ".."
      · exact Or.inr (Or.inl hup)
      · exact Or.inr (Or.inr ⟨hempty, hdot, hup⟩)

lemma isBlank_of_component? (h : (component? leading piece).isSome = false) : IsBlank piece := by
  rcases piece_cases piece with hblank | rfl | hplain
  · exact hblank
  · simp [component?] at h
  · simp [hplain.component?] at h

/-- A piece that means something is a name, leads up, or is the dot at the start. -/
lemma component?_cases (h : (component? leading piece).isSome = true) :
    (IsPlain piece ∧ component? leading piece = some (.normal piece)) ∨
      (piece = ".." ∧ component? leading piece = some .parent) ∨
      (piece = "." ∧ leading = true ∧ component? leading piece = some .current) := by
  rcases piece_cases piece with (rfl | rfl) | rfl | hplain
  · simp [component?] at h
  · cases leading with
    | false => simp [component?] at h
    | true => exact Or.inr (Or.inr ⟨rfl, rfl, rfl⟩)
  · exact Or.inr (Or.inl ⟨rfl, by simp [component?]⟩)
  · exact Or.inl ⟨hplain, hplain.component?⟩

/-! ## Trimmed pieces -/

lemma trimPieces_concat (init : List String) (last : String) :
    trimPieces leading (init ++ [last]) =
      if (component? (leading && init.isEmpty) last).isSome then init ++ [last]
      else trimPieces leading init := by
  induction init generalizing leading with
  | nil => simp [trimPieces]
  | cons first rest ih =>
    rw [List.cons_append, trimPieces, ih, trimPieces]
    simp only [Bool.false_and, List.isEmpty_cons, Bool.and_false]
    by_cases hlast : (component? false last).isSome = true
    · rw [if_pos hlast, if_pos hlast]
      cases hkept : rest ++ [last] with
      | nil => simp at hkept
      | cons a kept => rfl
    · rw [if_neg hlast, if_neg hlast]

/-- Trimming drops blank pieces at the end. -/
lemma exists_trimPieces_append (leading : Bool) (pieces : List String) :
    ∃ blanks, pieces = trimPieces leading pieces ++ blanks ∧ ∀ blank ∈ blanks, IsBlank blank := by
  induction pieces using List.reverseRecOn with
  | nil => exact ⟨[], rfl, by simp⟩
  | append_singleton init last ih =>
    rw [trimPieces_concat]
    by_cases hlast : (component? (leading && init.isEmpty) last).isSome = true
    · exact ⟨[], by simp [hlast], by simp⟩
    · obtain ⟨blanks, hinit, hblanks⟩ := ih
      refine ⟨blanks ++ [last], ?_, ?_⟩
      · rw [if_neg hlast, ← List.append_assoc, ← hinit]
      · simpa [or_imp, forall_and] using
          ⟨hblanks, isBlank_of_component? (Bool.not_eq_true _ ▸ hlast)⟩

/-- What is left after trimming ends in a piece that means something. -/
lemma trimPieces_cases (leading : Bool) (pieces : List String) :
    trimPieces leading pieces = [] ∨
      ∃ init last, trimPieces leading pieces = init ++ [last] ∧
        (component? (leading && init.isEmpty) last).isSome = true := by
  induction pieces using List.reverseRecOn with
  | nil => exact Or.inl rfl
  | append_singleton init last ih =>
    rw [trimPieces_concat]
    by_cases hlast : (component? (leading && init.isEmpty) last).isSome = true
    · exact Or.inr ⟨init, last, if_pos hlast, hlast⟩
    · rwa [if_neg hlast]

lemma trimPieces_trimPieces (leading : Bool) (pieces : List String) :
    trimPieces leading (trimPieces leading pieces) = trimPieces leading pieces := by
  rcases trimPieces_cases leading pieces with hnil | ⟨init, last, hpieces, hlast⟩
  · rw [hnil]
    rfl
  · rw [hpieces, trimPieces_concat, if_pos hlast]

/-! ## The last component -/

lemma componentsOf_concat (init : List String) (last : String) :
    componentsOf leading (init ++ [last]) =
      componentsOf leading init ++ (component? (leading && init.isEmpty) last).toList := by
  cases init with
  | nil => simp [componentsOf]
  | cons first rest =>
    have hlast : [last].filterMap (component? false) = (component? false last).toList := by
      cases hcomponent : component? false last <;> simp [hcomponent]
    simp only [List.cons_append, componentsOf, List.filterMap_append, List.append_assoc,
      List.isEmpty_cons, Bool.and_false, hlast]

lemma componentsOf_trimPieces (leading : Bool) (pieces : List String) :
    componentsOf leading (trimPieces leading pieces) = componentsOf leading pieces := by
  induction pieces using List.reverseRecOn with
  | nil => rfl
  | append_singleton init last ih =>
    rw [trimPieces_concat]
    by_cases hlast : (component? (leading && init.isEmpty) last).isSome = true
    · rw [if_pos hlast]
    · rw [if_neg hlast, ih, componentsOf_concat]
      cases hcomponent : component? (leading && init.isEmpty) last with
      | none => simp
      | some component => simp [hcomponent] at hlast

lemma components_eq (p : Path) :
    p.components =
      (if p.absolute then [.root] else []) ++ componentsOf (!p.absolute) p.trimmed.pieces := by
  rw [trimmed, componentsOf_trimPieces, components]
  cases p.absolute <;> rfl

/-- How a path ends, with its parent and its file name. -/
lemma ends (p : Path) :
    (p.trimmed.pieces = [] ∧ p.parent? = none ∧ p.fileName? = none) ∨
      ∃ init last, p.trimmed.pieces = init ++ [last] ∧
        p.parent? = some { p with pieces := trimPieces (!p.absolute) init } ∧
        ((IsPlain last ∧ p.fileName? = some last) ∨
          (last = ".." ∧ p.fileName? = none) ∨
          (last = "." ∧ init = [] ∧ p.fileName? = none)) := by
  rcases trimPieces_cases (!p.absolute) p.pieces with hnil | ⟨init, last, hpieces, hlast⟩
  · have htrimmed : p.trimmed.pieces = [] := hnil
    refine Or.inl ⟨htrimmed, ?_, ?_⟩
    · simp [parent?, htrimmed]
    · rw [fileName?, components_eq, htrimmed]
      cases p.absolute <;> rfl
  · have htrimmed : p.trimmed.pieces = init ++ [last] := hpieces
    have hcomponent : p.components.getLast? = component? (!p.absolute && init.isEmpty) last := by
      obtain ⟨component, hsome⟩ := Option.isSome_iff_exists.1 hlast
      rw [components_eq, htrimmed, componentsOf_concat, hsome, ← List.append_assoc,
        Option.toList_some, List.getLast?_concat]
    refine Or.inr ⟨init, last, htrimmed, ?_, ?_⟩
    · have hparent : p.parent? = some (trimmed { p.trimmed with pieces := init }) := by
        simp [parent?, htrimmed]
      exact hparent
    · rcases component?_cases hlast with ⟨hplain, hc⟩ | ⟨hup, hc⟩ | ⟨hdot, hleading, hc⟩
      · exact Or.inl ⟨hplain, by rw [fileName?, hcomponent, hc]⟩
      · exact Or.inr (Or.inl ⟨hup, by rw [fileName?, hcomponent, hc]⟩)
      · refine Or.inr (Or.inr ⟨hdot, ?_, by rw [fileName?, hcomponent, hc]⟩)
        simpa using (Bool.and_eq_true_iff.1 hleading).2

/-! ## Texts of paths -/

lemma prefix_toList_intercalate (separator : String) (lead rest : List String) :
    (separator.intercalate lead).toList <+: (separator.intercalate (lead ++ rest)).toList := by
  induction lead with
  | nil => exact List.nil_prefix
  | cons first lead ih =>
    cases lead with
    | nil =>
      cases rest with
      | nil => exact List.prefix_rfl
      | cons next rest => simp [String.intercalate_cons_cons]
    | cons second lead =>
      simp only [List.cons_append, String.intercalate_cons_cons, String.toList_append] at ih ⊢
      exact (List.prefix_append_right_inj _).2 ih

/-- A path that has the first pieces of another has the beginning of its text. -/
lemma prefix_text {p q : Path} (habsolute : p.absolute = q.absolute)
    (hpieces : p.pieces <+: q.pieces) : p.text.toList <+: q.text.toList := by
  obtain ⟨rest, hrest⟩ := hpieces
  rw [text, text, habsolute, ← hrest, String.toList_append, String.toList_append]
  exact (List.prefix_append_right_inj _).2 (prefix_toList_intercalate "/" p.pieces rest)

lemma intercalate_concat_ne_empty (separator : String) (init : List String) {last : String}
    (h : last ≠ "") : separator.intercalate (init ++ [last]) ≠ "" := by
  induction init with
  | nil => simpa using h
  | cons first rest ih =>
    cases hrest : rest ++ [last] with
    | nil => simp at hrest
    | cons second others =>
      rw [List.cons_append, hrest, String.intercalate_cons_cons, ← hrest]
      simp [ih]

/-- A trimmed path that has pieces has a text. -/
lemma text_ne_empty {p : Path} (htrimmed : p.trimmed = p) (hpieces : p.pieces ≠ []) :
    p.text ≠ "" := by
  rcases p.ends with ⟨hnil, -, -⟩ | ⟨init, last, hconcat, -, hlast⟩
  · rw [htrimmed] at hnil
    exact absurd hnil hpieces
  · have hne : last ≠ "" := by
      rcases hlast with ⟨hplain, -⟩ | ⟨rfl, -⟩ | ⟨rfl, -⟩
      · exact hplain.ne_empty
      · decide
      · decide
    rw [htrimmed] at hconcat
    rw [text, hconcat]
    simp [intercalate_concat_ne_empty "/" init hne]

end Blueprint.Path
