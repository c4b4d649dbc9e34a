import Blueprint.Kotlin.NamePlan
import Blueprint.Proofs.DottedName
import Mathlib.Data.List.Nodup

/-!
# What the names of a file denote

A name plan decides which paths a file imports and how the file spells each written name.  This
file reads the spellings back: `NamePlan.meaning` is what Kotlin takes a spelling to mean, given
the imports and the package of the file, and the main result `spelling_denotes_resolved` says that
every written name comes back as the path it was resolved to, that the imports do not compete with
each other or with the declarations of the file, and that none is superfluous.

Three facts carry the argument.

* The owner of a simple name is unique.  Imports are owners, so two imports with one simple name are
  the same path (`eq_of_mem_imports`), and the import of a simple name is found by looking it up.
* The path of the file's own package always owns its simple name (`owner_of_own`).  Hence what is
  written out in full is never such a path, and what is imported is never a declaration.
* Resolved paths are never half qualified: a resolved path without a package belongs to a file
  without one, and a resolved path with a package has a non-empty one (`resolveName_package`).
  This is where the written names have to be dotted identifiers: `.User` would be read back as
  `User`.

Only the last fact looks at the written names.  The others hold of every plan, and the package is
an arbitrary text throughout.
-/

namespace Blueprint.Kotlin

open Blueprint.DottedName (IsDotted)
open Blueprint.TypeExpr (isNameChar)

/-! ## Backticks -/

/-- A piece of Kotlin source without its backticks. -/
def unquoted (text : String) : String :=
  String.ofList (text.toList.filter (· != '`'))

lemma toList_unquoted (text : String) : (unquoted text).toList = text.toList.filter (· != '`') := by
  simp [unquoted]

lemma unquoted_of_not_mem {text : String} (h : '`' ∉ text.toList) : unquoted text = text := by
  rw [← String.toList_inj, toList_unquoted, List.filter_eq_self]
  intro c hc
  simpa using ne_of_mem_of_not_mem hc h

lemma unquoted_append (s t : String) : unquoted (s ++ t) = unquoted s ++ unquoted t := by
  rw [← String.toList_inj]
  simp [toList_unquoted]

lemma unquoted_escape {name : String} (h : '`' ∉ name.toList) : unquoted (escape name) = name := by
  have hquote : unquoted "`" = "" := by decide
  unfold escape
  split
  · rw [unquoted_append, unquoted_append, hquote, unquoted_of_not_mem h]
    simp
  · exact unquoted_of_not_mem h

/-- Escaping the segments of a path only adds backticks. -/
lemma unquoted_escapePath {path : String} (h : '`' ∉ path.toList) :
    unquoted (escapePath path) = path := by
  have hsegments : ∀ pieces : List (List Char), (∀ piece ∈ pieces, '`' ∉ piece) →
      unquoted (".".intercalate ((pieces.map String.ofList).map escape)) =
        String.ofList (['.'].intercalate pieces) := by
    intro pieces hpieces
    induction pieces with
    | nil => decide
    | cons piece rest ih =>
      have hpiece : unquoted (escape (String.ofList piece)) = String.ofList piece :=
        unquoted_escape (by simpa using hpieces piece (List.mem_cons_self ..))
      cases rest with
      | nil => simpa using hpiece
      | cons next others =>
        have hdot : unquoted "." = "." := by decide
        have hrest := ih fun p hp => hpieces p (List.mem_cons_of_mem _ hp)
        simp only [List.map_cons] at hrest ⊢
        rw [String.intercalate_cons_cons, unquoted_append, unquoted_append, hpiece, hdot, hrest,
          ← String.toList_inj]
        simp [List.intercalate_cons_cons]
  rw [escapePath, DottedName.segments, hsegments _ fun piece hpiece hmem =>
    h (Text.mem_of_mem_splitOn hpiece hmem), Text.intercalate_splitOn, String.ofList_toList]

/-! ## Resolved names -/

/-- A well-known path ends in the bare name it is looked up by and names its package. -/
lemma knownPath?_spec {name path : String} (h : knownPath? name = some path) :
    DottedName.simple path = name ∧ (DottedName.package? path).isSome ∧ IsDotted path := by
  have htable : ∀ entry ∈ knownPaths, DottedName.simple entry.2 = entry.1 ∧
      (DottedName.package? entry.2).isSome ∧ IsDotted entry.2 := by
    decide +kernel
  obtain ⟨before, after, hsplit, -⟩ := List.lookup_eq_some_iff.1 h
  exact htable (name, path) (by simp [hsplit])

/-- The three ways a written name gets its path. -/
lemma resolveName_cases (package : String) (declared : List String) (name : String) :
    (resolveName package declared name = name ∧ (DottedName.package? name).isSome) ∨
      (DottedName.package? name = none ∧
        knownPath? name = some (resolveName package declared name)) ∨
      (DottedName.package? name = none ∧
        resolveName package declared name = DottedName.qualify package name) := by
  by_cases hdot : (DottedName.package? name).isSome
  · left
    exact ⟨by rw [resolveName, if_pos hdot], hdot⟩
  · right
    have hbare : DottedName.package? name = none := by simpa using hdot
    rw [resolveName, if_neg hdot]
    by_cases hdeclared : name ∈ declared
    · right
      exact ⟨hbare, if_pos hdeclared⟩
    · rw [if_neg hdeclared]
      cases hknown : knownPath? name with
      | none => exact Or.inr ⟨hbare, rfl⟩
      | some path => exact Or.inl ⟨hbare, rfl⟩

lemma simple_resolveName (package : String) (declared : List String) (name : String) :
    DottedName.simple (resolveName package declared name) = DottedName.simple name := by
  rcases resolveName_cases package declared name with ⟨h, -⟩ | ⟨hbare, h⟩ | ⟨hbare, h⟩
  · rw [h]
  · rw [(knownPath?_spec h).1, DottedName.simple_of_bare hbare]
  · rw [h, DottedName.simple_qualify package hbare, DottedName.simple_of_bare hbare]

/-- A resolved path is never half qualified. -/
lemma resolveName_package (package : String) (declared : List String) {name : String}
    (hname : IsDotted name) :
    (DottedName.package? (resolveName package declared name) = none → package = "") ∧
      DottedName.package? (resolveName package declared name) ≠ some "" := by
  have hdotted : ∀ path, IsDotted path → DottedName.package? path ≠ some "" :=
    fun path hpath hempty => (hpath.package hempty).ne_empty rfl
  rcases resolveName_cases package declared name with ⟨h, hsome⟩ | ⟨-, h⟩ | ⟨hbare, h⟩
  · rw [h]
    exact ⟨fun hnone => by simp [hnone] at hsome, hdotted name hname⟩
  · obtain ⟨-, hsome, hpath⟩ := knownPath?_spec h
    exact ⟨fun hnone => by simp [hnone] at hsome, hdotted _ hpath⟩
  · rw [h, DottedName.package?_qualify package hbare]
    split <;> simp_all

namespace NamePlan

variable (plan : NamePlan)

/-! ## Owners -/

lemma mem_claimants {simple path : String} :
    path ∈ plan.claimants simple ↔ path ∈ plan.paths ∧ DottedName.simple path = simple := by
  simp [claimants]

lemma isOwner_iff {path : String} :
    plan.isOwner path = true ↔ plan.owner (DottedName.simple path) = path := by
  simp [isOwner]

/-- The path of the file's own package owns its simple name as soon as it is in play. -/
lemma owner_of_own {simple : String} (hbare : DottedName.package? simple = none)
    (h : DottedName.qualify plan.package simple ∈ plan.paths) :
    plan.owner simple = DottedName.qualify plan.package simple := by
  have hmem : DottedName.qualify plan.package simple ∈ plan.claimants simple :=
    plan.mem_claimants.2 ⟨h, DottedName.simple_qualify plan.package hbare⟩
  simp [owner, hmem]

/-- What is written out in full is not a path of the file's own package. -/
lemma ne_qualify_of_inFull {path : String} (h : plan.inFull path = true) :
    path ≠ DottedName.qualify plan.package (DottedName.simple path) := by
  intro hown
  rw [inFull, Bool.and_eq_true, decide_eq_true_eq, Bool.not_eq_true'] at h
  have howner : plan.isOwner path = true := by
    rw [isOwner_iff, plan.owner_of_own (DottedName.package?_simple path) (hown ▸ h.1)]
    exact hown.symm
  rw [howner] at h
  exact absurd h.2 (by simp)

/-- A written name whose path is written out in full denotes a dotted identifier with a package: the
name itself or a well-known path. -/
lemma isDotted_resolve_of_inFull {name : String} (hname : IsDotted name)
    (h : plan.inFull (plan.resolve name) = true) :
    IsDotted (plan.resolve name) ∧ (DottedName.package? (plan.resolve name)).isSome := by
  rcases resolveName_cases plan.package plan.declared name with ⟨hr, hsome⟩ | ⟨-, hr⟩ | ⟨hbare, hr⟩
  · rw [resolve, hr]
    exact ⟨hname, hsome⟩
  · obtain ⟨-, hsome, hdotted⟩ := knownPath?_spec hr
    exact ⟨hdotted, hsome⟩
  · refine absurd ?_ (plan.ne_qualify_of_inFull h)
    rw [resolve, hr, DottedName.simple_qualify plan.package hbare]

/-! ## Imports -/

lemma mem_imports {path : String} :
    path ∈ plan.imports ↔
      path ∈ plan.paths ∧ plan.isOwner path = true ∧ plan.isForeign path = true := by
  simp [imports]

lemma isForeign_iff {path : String} :
    plan.isForeign path = true ↔
      ∃ package, DottedName.package? path = some package ∧ package ≠ plan.package := by
  unfold isForeign
  cases DottedName.package? path <;> simp

/-- Two imports with the same simple name are the same path: the owner of that name. -/
lemma eq_of_mem_imports {p q : String} (hp : p ∈ plan.imports) (hq : q ∈ plan.imports)
    (h : DottedName.simple p = DottedName.simple q) : p = q := by
  have hpo := plan.isOwner_iff.1 (plan.mem_imports.1 hp).2.1
  have hqo := plan.isOwner_iff.1 (plan.mem_imports.1 hq).2.1
  rw [← hpo, ← hqo, h]

lemma not_isForeign_qualify {name : String} (hbare : DottedName.package? name = none) :
    ¬ plan.isForeign (DottedName.qualify plan.package name) = true := by
  rw [isForeign_iff, DottedName.package?_qualify plan.package hbare]
  rintro ⟨package, hpackage, hne⟩
  split at hpackage
  · cases hpackage
  · exact hne (Option.some.inj hpackage).symm

/-- A path that is not foreign lies in the file's own package, unless it is half qualified. -/
lemma qualify_of_not_isForeign {path : String}
    (hbare : DottedName.package? path = none → plan.package = "")
    (hdot : DottedName.package? path ≠ some "") (hforeign : ¬ plan.isForeign path = true) :
    DottedName.qualify plan.package (DottedName.simple path) = path := by
  rcases DottedName.package?_cases path with ⟨hnone, hsimple⟩ | ⟨package, hsome, -⟩
  · rw [hbare hnone, DottedName.qualify_empty, hsimple]
  · have hsame : package = plan.package := by
      by_contra hne
      exact hforeign (plan.isForeign_iff.2 ⟨package, hsome, hne⟩)
    rw [← hsame]
    refine DottedName.qualify_simple hsome ?_
    rintro rfl
    exact hdot hsome

/-- An import does not take the simple name of a path of the file's own package. -/
lemma simple_ne_of_mem_imports {path name : String} (hpath : path ∈ plan.imports)
    (hbare : DottedName.package? name = none)
    (hname : DottedName.qualify plan.package name ∈ plan.paths) :
    DottedName.simple path ≠ name := by
  intro hsimple
  obtain ⟨-, howner, hforeign⟩ := plan.mem_imports.1 hpath
  rw [isOwner_iff, hsimple, plan.owner_of_own hbare hname] at howner
  rw [← howner] at hforeign
  exact plan.not_isForeign_qualify hbare hforeign

/-! ## Reading a spelling -/

/-- What a spelling denotes in the file, backticks aside: a dotted spelling is a path, and a bare
one is the import with that last segment, or else the declaration of the file's own package. -/
def meaning (text : String) : String :=
  if (DottedName.package? (unquoted text)).isSome then unquoted text
  else
    (plan.imports.find? (DottedName.simple · = unquoted text)).getD
      (DottedName.qualify plan.package (unquoted text))

lemma meaning_escapePath {path : String} (hpath : '`' ∉ path.toList)
    (hdot : (DottedName.package? path).isSome) : plan.meaning (escapePath path) = path := by
  rw [meaning, unquoted_escapePath hpath, if_pos hdot]

/-- The import of a simple name is found by looking the name up among the imports. -/
lemma find?_imports_simple {path : String} (h : path ∈ plan.imports) :
    plan.imports.find? (DottedName.simple · = DottedName.simple path) = some path := by
  cases hfind : plan.imports.find? (DottedName.simple · = DottedName.simple path) with
  | none =>
    rw [List.find?_eq_none] at hfind
    exact absurd (decide_eq_true rfl) (hfind path h)
  | some found =>
    have hsimple : DottedName.simple found = DottedName.simple path := by
      simpa using List.find?_some hfind
    rw [plan.eq_of_mem_imports (List.mem_of_find?_eq_some hfind) h hsimple]

/-- The bare simple name of an owner is read back as the owner, unless that is half qualified. -/
lemma meaning_escape_simple {path : String} (hpath : '`' ∉ (DottedName.simple path).toList)
    (howner : plan.isOwner path = true) (hmem : path ∈ plan.paths)
    (hbare : DottedName.package? path = none → plan.package = "")
    (hdot : DottedName.package? path ≠ some "") :
    plan.meaning (escape (DottedName.simple path)) = path := by
  rw [meaning, unquoted_escape hpath, if_neg (by simp)]
  by_cases hforeign : plan.isForeign path = true
  · rw [plan.find?_imports_simple (plan.mem_imports.2 ⟨hmem, howner, hforeign⟩)]
    rfl
  · have hown := plan.qualify_of_not_isForeign hbare hdot hforeign
    have hnone : plan.imports.find? (DottedName.simple · = DottedName.simple path) = none := by
      rw [List.find?_eq_none]
      intro q hq hsimple
      refine plan.simple_ne_of_mem_imports hq (DottedName.package?_simple path) ?_
        (of_decide_eq_true hsimple)
      rw [hown]
      exact hmem
    rw [hnone, Option.getD_none]
    exact hown

/-- A name whose path is in play is read back as that path. -/
lemma meaning_spelling {name : String} (hname : IsDotted name)
    (hmem : plan.resolve name ∈ plan.paths) :
    plan.meaning (plan.spelling name) = plan.resolve name := by
  have hquote : isNameChar '`' = false := by decide
  by_cases hfull : plan.inFull (plan.resolve name) = true
  · obtain ⟨hdotted, hsome⟩ := plan.isDotted_resolve_of_inFull hname hfull
    rw [spelling, if_pos hfull]
    exact plan.meaning_escapePath (hdotted.not_mem_toList hquote) hsome
  · have howner : plan.isOwner (plan.resolve name) = true := by
      simpa [inFull, hmem] using hfull
    have hsimple : DottedName.simple (plan.resolve name) = DottedName.simple name :=
      simple_resolveName plan.package plan.declared name
    obtain ⟨hbare, hdot⟩ := resolveName_package plan.package plan.declared hname
    rw [spelling, if_neg hfull, ← hsimple]
    refine plan.meaning_escape_simple ?_ howner hmem hbare hdot
    rw [hsimple]
    exact hname.simple.not_mem_toList hquote

end NamePlan

/-! ## The plan of a file -/

section File

variable (types : List TypeExpr) (package : String) (declared : List String)

lemma mem_paths_ofTypes {path : String} :
    path ∈ (NamePlan.ofTypes types package declared).paths ↔
      (∃ name ∈ declared, DottedName.qualify package name = path) ∨
        ∃ name ∈ types.flatMap writtenNames, resolveName package declared name = path := by
  simp [NamePlan.ofTypes]

lemma nodup_imports_ofTypes : (NamePlan.ofTypes types package declared).imports.Nodup :=
  (NameSet.nodup_ofList _).filter _

/-- **Name plans are sound.**  In a file that writes `types`, every written name is spelled so that
Kotlin reads it back as the path it resolves to.  The imports have pairwise different last segments,
none of which is a name that the file declares; each lives in another package than the file's, and
each is the path of a written name. -/
theorem spelling_denotes_resolved
    (hwritten : ∀ name ∈ types.flatMap writtenNames, IsDotted name)
    (hdeclared : ∀ name ∈ declared, DottedName.package? name = none) :
    let plan := NamePlan.ofTypes types package declared
    (∀ name ∈ types.flatMap writtenNames,
        plan.meaning (plan.spelling name) = resolveName package declared name) ∧
      (plan.imports.map DottedName.simple).Nodup ∧
      (∀ path ∈ plan.imports, DottedName.simple path ∉ declared) ∧
      (∀ path ∈ plan.imports, ∃ p, DottedName.package? path = some p ∧ p ≠ package) ∧
      ∀ path ∈ plan.imports,
        ∃ name ∈ types.flatMap writtenNames, resolveName package declared name = path := by
  intro plan
  have hown : ∀ name ∈ declared, DottedName.qualify plan.package name ∈ plan.paths :=
    fun name hname => (mem_paths_ofTypes types package declared).2 (Or.inl ⟨name, hname, rfl⟩)
  refine ⟨?_, ?_, ?_, ?_, ?_⟩
  · intro name hname
    exact plan.meaning_spelling (hwritten name hname)
      ((mem_paths_ofTypes types package declared).2 (Or.inr ⟨name, hname, rfl⟩))
  · refine List.Nodup.map_on ?_ (nodup_imports_ofTypes types package declared)
    intro p hp q hq h
    exact plan.eq_of_mem_imports hp hq h
  · intro path hpath hmem
    exact plan.simple_ne_of_mem_imports hpath (hdeclared _ hmem) (hown _ hmem) rfl
  · intro path hpath
    exact plan.isForeign_iff.1 (plan.mem_imports.1 hpath).2.2
  · intro path hpath
    obtain ⟨hpaths, -, hforeign⟩ := plan.mem_imports.1 hpath
    rcases (mem_paths_ofTypes types package declared).1 hpaths with ⟨name, hname, rfl⟩ | hresolved
    · exact absurd hforeign (plan.not_isForeign_qualify (hdeclared name hname))
    · exact hresolved

/-- Four paths share two simple names here.  The own `User` and the least `UUID` take the bare
names; `com.acme.in.User` is written out, with its keyword segment quoted. -/
theorem spelling_denotes_resolved_clash :
    let types : List TypeExpr :=
      [.named "UUID" [], .list (.named "com.acme.UUID" []), .named "User" [],
        .named "IO" [.nullable (.named "com.acme.in.User" [])]]
    let plan := NamePlan.ofTypes types "org.shop" ["User"]
    plan.imports = ["com.acme.UUID"] ∧
      plan.spelling "com.acme.in.User" = "com.acme.`in`.User" ∧
      ∀ name ∈ types.flatMap writtenNames,
        plan.meaning (plan.spelling name) = resolveName "org.shop" ["User"] name :=
  ⟨by decide +kernel, by decide +kernel,
    (spelling_denotes_resolved _ "org.shop" ["User"] (by decide +kernel) (by decide +kernel)).1⟩

end File

end Blueprint.Kotlin
