import Blueprint.Kotlin.Renderable
import Blueprint.Migration.Document
import Blueprint.Proofs.Document.Scope
import Blueprint.Proofs.Kotlin.File
import Blueprint.Proofs.Kotlin.NamePlan

/-!
# Words that an import or a declaration captures

A file writes two kinds of words without asking its name plan: those of built-in types, and type
variables.  All over the file an import takes its last segment for the imported path, and a
declaration takes its name.  A unit is `CaptureFree` if neither takes the word of a built-in type
that the unit uses, or the name of a variable where that very type is mentioned in the scope of the
variable.

A name plan settles the clashes of named types with each other and with nothing else.  The main
result `captureFree_iff` says what is left: the condition on the names that a unit declares and
writes which decides whether it is free of captures.  It rests on two facts about plans.

* A path in play is of the file's own package or of another one (`own_or_isForeign`), so a word is
  the last segment of an import exactly if it is the last segment of some path in play and the
  path of the file's own package is not (`mem_simple_imports_iff`).
* A path in play is neither imported nor declared exactly if it is written out in full, or lies in
  the file's own package without being declared (`not_taken_iff`).
-/

namespace Blueprint

open DottedName (IsDotted)

namespace Kotlin

open TypeExpr (Wrapper)

/-! ## Words of built-in types -/

mutual

/-- The words of built-in types that the Kotlin text of a type holds.  Of a wrapper only the value
is written, and of a variable only its name. -/
def builtinNames : TypeExpr → List String
  | .primitive p => [p.name]
  | .named name args =>
    match Wrapper.ofName? name args.length with
    | some _ => (builtinNamesOf args).getLastD []
    | none => (builtinNamesOf args).flatten
  | .parameter _ _ => []
  | .nullable t => builtinNames t
  | .list t => "List" :: builtinNames t
  | .set t => "Set" :: builtinNames t
  | .map k v => "Map" :: (builtinNames k ++ builtinNames v)
  | .function params result => (builtinNamesOf params).flatten ++ builtinNames result

/-- `builtinNames` of each type of a list. -/
def builtinNamesOf : List TypeExpr → List (List String)
  | [] => []
  | t :: ts => builtinNames t :: builtinNamesOf ts

end

/-! ## Scopes of variables -/

/-- Type variables with the types that see them. -/
structure VariableScope where
  names : List String
  types : List TypeExpr

/-- The variables of a method, with its signature. -/
def methodScope (m : Method) : VariableScope :=
  ⟨variableNames m.typeParams, m.signatureTypes⟩

/-- The scopes of a piece.  An adapter declares the variables of the methods that it overrides. -/
def Piece.variableScopes : Piece → List VariableScope
  | .model m => [⟨variableNames m.typeParams, m.referencedTypes⟩]
  | .port p => ⟨variableNames p.typeParams, p.referencedTypes⟩ :: p.methods.map methodScope
  | .adapter a port? => (a.overrides port?).map methodScope
  | .service s => s.methods.map methodScope
  | .unit _ => []

lemma types_subset_of_mem_variableScopes {d : Piece} {scope : VariableScope}
    (h : scope ∈ d.variableScopes) : scope.types ⊆ d.types := by
  have hmethods : ∀ methods : List Method, scope ∈ methods.map methodScope →
      scope.types ⊆ methods.flatMap Method.signatureTypes := by
    intro methods hscope t ht
    obtain ⟨m, hm, rfl⟩ := List.mem_map.1 hscope
    exact List.mem_flatMap.2 ⟨m, hm, ht⟩
  cases d with
  | model m =>
    obtain rfl := List.mem_singleton.1 h
    exact List.Subset.refl _
  | port p =>
    rcases List.mem_cons.1 h with rfl | h
    · exact List.Subset.refl _
    · exact List.subset_append_of_subset_right _ (hmethods _ h)
  | adapter a port? => exact List.subset_append_of_subset_right _ (hmethods _ h)
  | service s => exact List.subset_append_of_subset_right _ (hmethods _ h)
  | unit u => cases h

end Kotlin

namespace SourceUnit

/-- The scopes of variables in the file of a unit. -/
def variableScopes (u : SourceUnit) : List Kotlin.VariableScope :=
  u.pieces.flatMap Kotlin.Piece.variableScopes

lemma namesIn_subset_of_mem_variableScopes {u : SourceUnit} {scope : Kotlin.VariableScope}
    (h : scope ∈ u.variableScopes) :
    Kotlin.namesIn scope.types ⊆ Kotlin.namesIn u.mentionedTypes := by
  obtain ⟨d, hd, hscope⟩ := List.mem_flatMap.1 h
  intro name hname
  obtain ⟨t, ht, hname⟩ := List.mem_flatMap.1 hname
  have hmem : t ∈ d.types := Kotlin.types_subset_of_mem_variableScopes hscope ht
  rw [mentionedTypes_eq]
  exact List.mem_flatMap.2 ⟨t, List.mem_flatMap.2 ⟨d, hd, hmem⟩, hname⟩

/-- No import and no declaration of the file takes a word that is written for something else. -/
structure CaptureFree (u : SourceUnit) : Prop where
  builtins : ∀ word ∈ u.mentionedTypes.flatMap Kotlin.builtinNames,
    word ∉ u.topLevelNames ∧ word ∉ u.imports.map DottedName.simple
  scopes : ∀ scope ∈ u.variableScopes, ∀ name ∈ Kotlin.namesIn scope.types,
    u.namePlan.resolve name ∈ u.topLevelNames.map (DottedName.qualify u.package) ∨
        u.namePlan.resolve name ∈ u.imports →
      DottedName.simple name ∉ scope.names

instance (u : SourceUnit) : Decidable u.CaptureFree :=
  decidable_of_iff
    ((∀ word ∈ u.mentionedTypes.flatMap Kotlin.builtinNames,
        word ∉ u.topLevelNames ∧ word ∉ u.imports.map DottedName.simple) ∧
      ∀ scope ∈ u.variableScopes, ∀ name ∈ Kotlin.namesIn scope.types,
        u.namePlan.resolve name ∈ u.topLevelNames.map (DottedName.qualify u.package) ∨
            u.namePlan.resolve name ∈ u.imports →
          DottedName.simple name ∉ scope.names)
    ⟨fun h => ⟨h.1, h.2⟩, fun h => ⟨h.builtins, h.scopes⟩⟩

end SourceUnit

/-! ## Plans -/

namespace Kotlin

/-- The owner of a simple name is one of those that share it, if there are any. -/
lemma NamePlan.owner_mem_claimants {plan : NamePlan} {simple path : String}
    (h : path ∈ plan.claimants simple) : plan.owner simple ∈ plan.claimants simple := by
  simp only [owner]
  split
  · assumption
  · obtain ⟨first, rest, hclaimants⟩ := List.exists_cons_of_ne_nil (List.ne_nil_of_mem h)
    simp [hclaimants]

section Plan

variable {types : List TypeExpr} {package : String} {declared : List String} {path word : String}

/-- Unless it is declared, a path of the file's own package is in play for a written name only. -/
lemma qualify_mem_paths_iff (hword : word ∉ declared) :
    DottedName.qualify package word ∈ (NamePlan.ofTypes types package declared).paths ↔
      ∃ name ∈ namesIn types,
        resolveName package declared name = DottedName.qualify package word := by
  rw [mem_paths_ofTypes, or_iff_right]
  rintro ⟨name, hname, heq⟩
  exact hword (DottedName.qualify_injective package heq ▸ hname)

/-- A word that is not declared is the last segment of a path in play for a written name only. -/
lemma exists_simple_eq_iff (hdeclared : ∀ name ∈ declared, DottedName.package? name = none)
    (hword : word ∉ declared) :
    (∃ path ∈ (NamePlan.ofTypes types package declared).paths, DottedName.simple path = word) ↔
      ∃ name ∈ namesIn types, DottedName.simple name = word := by
  constructor
  · rintro ⟨path, hpath, rfl⟩
    rcases (mem_paths_ofTypes types package declared).1 hpath with
      ⟨name, hname, rfl⟩ | ⟨name, hname, rfl⟩
    · rw [DottedName.simple_qualify package (hdeclared name hname)] at hword
      exact absurd hname hword
    · exact ⟨name, hname, (simple_resolveName package declared name).symm⟩
  · rintro ⟨name, hname, rfl⟩
    exact ⟨_, (mem_paths_ofTypes types package declared).2 (Or.inr ⟨name, hname, rfl⟩),
      simple_resolveName package declared name⟩

variable (hwritten : ∀ name ∈ namesIn types, IsDotted name)
  (hdeclared : ∀ name ∈ declared, DottedName.package? name = none)

include hwritten hdeclared

/-- A path in play lies in the file's own package or in another one. -/
lemma own_or_isForeign (h : path ∈ (NamePlan.ofTypes types package declared).paths) :
    path = DottedName.qualify package (DottedName.simple path) ∨
      (NamePlan.ofTypes types package declared).isForeign path = true := by
  rcases (mem_paths_ofTypes types package declared).1 h with ⟨name, hname, rfl⟩ | ⟨name, hname, rfl⟩
  · rw [DottedName.simple_qualify package (hdeclared name hname)]
    exact Or.inl rfl
  · obtain ⟨hbare, hdot⟩ := resolveName_package package declared (hwritten name hname)
    by_cases hforeign : (NamePlan.ofTypes types package declared).isForeign
        (resolveName package declared name) = true
    · exact Or.inr hforeign
    · exact Or.inl (NamePlan.qualify_of_not_isForeign _ hbare hdot hforeign).symm

/-- A word is the last segment of an import exactly if it is the last segment of some path in play
and the path of the file's own package is not in play. -/
lemma mem_simple_imports_iff :
    word ∈ (NamePlan.ofTypes types package declared).imports.map DottedName.simple ↔
      DottedName.qualify package word ∉ (NamePlan.ofTypes types package declared).paths ∧
        ∃ path ∈ (NamePlan.ofTypes types package declared).paths,
          DottedName.simple path = word := by
  set plan := NamePlan.ofTypes types package declared
  constructor
  · intro hword
    obtain ⟨path, hpath, rfl⟩ := List.mem_map.1 hword
    refine ⟨fun hown => ?_, path, (plan.mem_imports.1 hpath).1, rfl⟩
    exact plan.simple_ne_of_mem_imports hpath (DottedName.package?_simple path) hown rfl
  · rintro ⟨hown, path, hpath, rfl⟩
    -- the owner of the word is in play and not of the file's own package
    have howner := NamePlan.owner_mem_claimants (plan.mem_claimants.2 ⟨hpath, rfl⟩)
    obtain ⟨hmem, hsimple⟩ := plan.mem_claimants.1 howner
    refine List.mem_map.2 ⟨_, plan.mem_imports.2 ⟨hmem, ?_, ?_⟩, hsimple⟩
    · rw [plan.isOwner_iff, hsimple]
    · rcases own_or_isForeign hwritten hdeclared hmem with heq | hforeign
      · rw [hsimple] at heq
        exact absurd (heq ▸ hmem) hown
      · exact hforeign

/-- A path in play is neither imported nor declared exactly if it is written out in full, or of the
file's own package and not declared. -/
lemma not_taken_iff (h : path ∈ (NamePlan.ofTypes types package declared).paths) :
    ¬ (path ∈ declared.map (DottedName.qualify package) ∨
        path ∈ (NamePlan.ofTypes types package declared).imports) ↔
      (NamePlan.ofTypes types package declared).inFull path = true ∨
        path = DottedName.qualify package (DottedName.simple path) ∧
          DottedName.simple path ∉ declared := by
  set plan := NamePlan.ofTypes types package declared
  have hbare := DottedName.package?_simple path
  obtain hown | hforeign : _ ∨ plan.isForeign path = true := own_or_isForeign hwritten hdeclared h
  · have hfull : ¬ plan.inFull path = true := fun hfull => plan.ne_qualify_of_inFull hfull hown
    have himport : path ∉ plan.imports := fun himport =>
      plan.simple_ne_of_mem_imports himport hbare (hown ▸ h) rfl
    have hmem : path ∈ declared.map (DottedName.qualify package) ↔
        DottedName.simple path ∈ declared := by
      constructor
      · intro hmem
        obtain ⟨name, hname, rfl⟩ := List.mem_map.1 hmem
        rwa [DottedName.simple_qualify package (hdeclared name hname)]
      · exact fun hname => List.mem_map.2 ⟨_, hname, hown.symm⟩
    rw [hmem, or_iff_left himport, or_iff_right hfull, and_iff_right hown]
  · have hmem : path ∉ declared.map (DottedName.qualify package) := by
      intro hmem
      obtain ⟨name, hname, rfl⟩ := List.mem_map.1 hmem
      exact plan.not_isForeign_qualify (hdeclared name hname) hforeign
    have hown : path ≠ DottedName.qualify package (DottedName.simple path) := fun hown =>
      plan.not_isForeign_qualify hbare (hown ▸ hforeign)
    have hfull : plan.inFull path = true ↔ path ∉ plan.imports := by
      rw [plan.mem_imports, NamePlan.inFull]
      simp [h, hforeign]
    rw [or_iff_right hmem, hfull, or_iff_left fun h => hown h.1]

end Plan

end Kotlin

/-! ## Units -/

/-- **What a name plan leaves to chance.**  Let the names that a unit writes be dotted identifiers,
and those that it declares have no dots.  The unit is free of captures exactly if

* no built-in type that it uses has the name of a declaration, and if a written name ends in the
  word of one, then some written name denotes the namesake in the unit's own package;
* where the last segment of a written name is a variable in scope, the name is written out in full,
  or it denotes a type of the unit's own package that the unit does not declare. -/
theorem captureFree_iff {u : SourceUnit}
    (hwritten : ∀ name ∈ Kotlin.namesIn u.mentionedTypes, IsDotted name)
    (hdeclared : ∀ name ∈ u.topLevelNames, DottedName.package? name = none) :
    u.CaptureFree ↔
      (∀ word ∈ u.mentionedTypes.flatMap Kotlin.builtinNames, word ∉ u.topLevelNames ∧
        ((∃ name ∈ Kotlin.namesIn u.mentionedTypes, DottedName.simple name = word) →
          ∃ name ∈ Kotlin.namesIn u.mentionedTypes,
            u.namePlan.resolve name = DottedName.qualify u.package word)) ∧
      ∀ scope ∈ u.variableScopes, ∀ name ∈ Kotlin.namesIn scope.types,
        DottedName.simple name ∈ scope.names →
          u.namePlan.inFull (u.namePlan.resolve name) = true ∨
            u.namePlan.resolve name = DottedName.qualify u.package (DottedName.simple name) ∧
              DottedName.simple name ∉ u.topLevelNames := by
  have hbuiltins : ∀ word ∉ u.topLevelNames,
      (word ∉ u.imports.map DottedName.simple ↔
        ((∃ name ∈ Kotlin.namesIn u.mentionedTypes, DottedName.simple name = word) →
          ∃ name ∈ Kotlin.namesIn u.mentionedTypes,
            u.namePlan.resolve name = DottedName.qualify u.package word)) := by
    intro word hword
    have himports : word ∈ u.imports.map DottedName.simple ↔ _ :=
      Kotlin.mem_simple_imports_iff hwritten hdeclared
    have hown : DottedName.qualify u.package word ∈ u.namePlan.paths ↔ _ :=
      Kotlin.qualify_mem_paths_iff hword
    have hnamesake : (∃ path ∈ u.namePlan.paths, DottedName.simple path = word) ↔ _ :=
      Kotlin.exists_simple_eq_iff hdeclared hword
    rw [himports, not_and', not_not]
    exact imp_congr hnamesake hown
  have hscopes : ∀ scope ∈ u.variableScopes, ∀ name ∈ Kotlin.namesIn scope.types,
      (¬ (u.namePlan.resolve name ∈ u.topLevelNames.map (DottedName.qualify u.package) ∨
          u.namePlan.resolve name ∈ u.imports) ↔
        u.namePlan.inFull (u.namePlan.resolve name) = true ∨
          u.namePlan.resolve name = DottedName.qualify u.package (DottedName.simple name) ∧
            DottedName.simple name ∉ u.topLevelNames) := by
    intro scope hscope name hname
    have hmem := SourceUnit.namesIn_subset_of_mem_variableScopes hscope hname
    have hpath : u.namePlan.resolve name ∈ u.namePlan.paths :=
      (Kotlin.mem_paths_ofTypes _ _ _).2 (Or.inr ⟨name, hmem, rfl⟩)
    have hsimple : DottedName.simple (u.namePlan.resolve name) = DottedName.simple name :=
      Kotlin.simple_resolveName ..
    rw [← hsimple]
    exact Kotlin.not_taken_iff hwritten hdeclared hpath
  constructor
  · intro h
    refine ⟨fun word hword => ?_, fun scope hscope name hname hvariable => ?_⟩
    · obtain ⟨hdeclaration, himport⟩ := h.builtins word hword
      exact ⟨hdeclaration, (hbuiltins word hdeclaration).1 himport⟩
    · rw [← hscopes scope hscope name hname]
      exact fun htaken => h.scopes scope hscope name hname htaken hvariable
  · rintro ⟨hwords, hvariables⟩
    refine ⟨fun word hword => ?_, fun scope hscope name hname htaken hvariable => ?_⟩
    · obtain ⟨hdeclaration, hnamesake⟩ := hwords word hword
      exact ⟨hdeclaration, (hbuiltins word hdeclaration).2 hnamesake⟩
    · have hkept := hvariables scope hscope name hname hvariable
      exact (hscopes scope hscope name hname).2 hkept htaken

/-- A box of `T` is tagged with another `T`, which is written out since a third one is imported. -/
theorem captureFree_box :
    let u : SourceUnit :=
      { package := "com.acme"
        models :=
          [⟨"Box", "com.acme", .entity [⟨"T", []⟩]
              [{ name := "values", type := .list (.parameter "T" []) },
                { name := "tag", type := .named "org.lib.T" [] }]⟩,
            ⟨"Plain", "com.acme", .entity [] [{ name := "tag", type := .named "abc.T" [] }]⟩] }
    (∀ name ∈ Kotlin.namesIn u.mentionedTypes, IsDotted name) ∧
      (∀ name ∈ u.topLevelNames, DottedName.package? name = none) ∧ u.CaptureFree := by
  intro u
  have hwritten : ∀ name ∈ Kotlin.namesIn u.mentionedTypes, IsDotted name := by decide +kernel
  have hdeclared : ∀ name ∈ u.topLevelNames, DottedName.package? name = none := by decide +kernel
  refine ⟨hwritten, hdeclared, (captureFree_iff hwritten hdeclared).2 ⟨?_, ?_⟩⟩
  · decide +kernel
  · decide +kernel

/-- Valid and renderable units whose files do not mean what they should: an import takes the word of
a collection, a declaration that of a scalar type, and a variable hides an import. -/
theorem isValid_not_captureFree :
    let list : SourceUnit :=
      { package := "com.acme"
        models := [⟨"Order", "com.acme", .entity []
          [{ name := "tags", type := .list (.primitive .int) },
            { name := "raw", type := .named "java.util.List" [.primitive .int] }]⟩] }
    let string : SourceUnit :=
      { package := "com.acme"
        models := [⟨"String", "com.acme", .entity []
          [{ name := "text", type := .primitive .string }]⟩] }
    let box : SourceUnit :=
      { package := "com.acme"
        models := [⟨"Box", "com.acme", .entity [⟨"T", []⟩]
          [{ name := "value", type := .parameter "T" [] },
            { name := "tag", type := .named "org.lib.T" [] }]⟩] }
    (∀ u ∈ [list, string, box],
      (Pattern.parse Rule.defaultPattern).toOption.map (fun identifier =>
        (u.verdict identifier).isValid) = some true ∧
      u.checkRenderable = .ok () ∧ ¬ u.CaptureFree) ∧
    Kotlin.renderUnit {} list = "package com.acme\n\nimport java.util.List\n\n" ++
      "data class Order(\n    val tags: List<Int>,\n    val raw: List<Int>,\n)\n" := by
  decide +kernel

end Blueprint
