import Blueprint.Proofs.DottedName
import Mathlib.Data.List.Infix

/-!
# The package that all packages share

The root package of a project is found in one pass: the segments shared so far are cut back to
those that the next package starts with as well.  Each cut is a meet in the order of prefixes
(`prefix_commonStart_iff`), and so is the whole pass (`prefix_commonSegments_iff`): a list of
segments leads what is left exactly if it leads every package.  That property knows neither the
order of the packages nor how often they occur, and it determines the result.

Segments are compared whole, never by letters.  They can be read off the text of the root package
again (`packageSegments_commonPackage`), since a segment of a package is not empty and has no dot
in it.
-/

namespace Blueprint.DottedName

open Blueprint.Text

variable {lead as bs packages : List String} {segment : String}

/-! ## Segments of joined names -/

/-- A name that can be found again in a package that was joined from such names. -/
structure IsSegment (segment : String) : Prop where
  ne_empty : segment ≠ ""
  no_dot : '.' ∉ segment.toList

lemma IsSegment.packageSegments (h : IsSegment segment) : packageSegments segment = [segment] := by
  have hsplit : segments segment = [segment] := by
    rw [segments, splitOn_eq_list_splitOn, List.splitOn_eq_singleton h.no_dot]
    simp
  simp [DottedName.packageSegments, hsplit, h.ne_empty]

lemma packageSegments_append_dot (package name : String) :
    packageSegments (package ++ "." ++ name) = packageSegments package ++ packageSegments name := by
  have hcut : (package ++ "." ++ name).toList = package.toList ++ '.' :: name.toList := by simp
  simp only [packageSegments, segments, hcut, splitOn_append_cons, List.map_append,
    List.filter_append]

lemma isSegment_of_mem {package : String} (h : segment ∈ packageSegments package) :
    IsSegment segment := by
  obtain ⟨hmem, hne⟩ := List.mem_filter.1 h
  obtain ⟨piece, hpiece, rfl⟩ := List.mem_map.1 hmem
  exact ⟨by simpa using hne, by simpa using not_mem_of_mem_splitOn hpiece⟩

/-- Segments that are joined by dots are found again. -/
lemma packageSegments_intercalate (h : ∀ segment ∈ lead, IsSegment segment) :
    packageSegments (".".intercalate lead) = lead := by
  induction lead with
  | nil => rfl
  | cons first rest ih =>
    have hfirst : packageSegments first = [first] := (h first List.mem_cons_self).packageSegments
    have hrest := ih fun segment hmem => h segment (List.mem_cons_of_mem first hmem)
    cases rest with
    | nil => simpa using hfirst
    | cons second others =>
      rw [String.intercalate_cons_cons, packageSegments_append_dot, hfirst, hrest]
      rfl

/-! ## The common start -/

lemma prefix_commonStart_iff : lead <+: commonStart as bs ↔ lead <+: as ∧ lead <+: bs := by
  fun_induction commonStart as bs generalizing lead with
  | case1 a as bs ih =>
    cases lead with
    | nil => simp
    | cons first rest =>
      simp only [List.cons_prefix_cons, ih]
      tauto
  | case2 a as b bs hne =>
    cases lead with
    | nil => simp
    | cons first rest =>
      simp only [List.prefix_nil, reduceCtorEq, List.cons_prefix_cons, false_iff]
      rintro ⟨⟨rfl, -⟩, rfl, -⟩
      exact hne rfl
  | case3 as bs hends =>
    have hnil : as = [] ∨ bs = [] := by
      cases as with
      | nil => exact Or.inl rfl
      | cons a as =>
        cases bs with
        | nil => exact Or.inr rfl
        | cons b bs => exact absurd rfl (hends a as b bs rfl)
    rw [List.prefix_nil]
    constructor
    · rintro rfl
      exact ⟨List.nil_prefix, List.nil_prefix⟩
    · rintro ⟨has, hbs⟩
      rcases hnil with rfl | rfl
      · exact List.prefix_nil.1 has
      · exact List.prefix_nil.1 hbs

/-- The segments that all packages start with. -/
def commonSegments : List String → List String
  | [] => []
  | first :: rest =>
    rest.foldl (fun shared package => commonStart shared (packageSegments package))
      (packageSegments first)

/-- One pass over the packages, from any segments. -/
lemma prefix_foldl_commonStart_iff (shared : List String) :
    lead <+: packages.foldl (fun shared p => commonStart shared (packageSegments p)) shared ↔
      lead <+: shared ∧ ∀ package ∈ packages, lead <+: packageSegments package := by
  induction packages generalizing shared with
  | nil => simp
  | cons package rest ih =>
    rw [List.foldl_cons, ih, prefix_commonStart_iff, List.forall_mem_cons, and_assoc]

lemma prefix_commonSegments_iff (h : packages ≠ []) :
    lead <+: commonSegments packages ↔ ∀ package ∈ packages, lead <+: packageSegments package := by
  cases packages with
  | nil => exact absurd rfl h
  | cons first rest =>
    rw [commonSegments, prefix_foldl_commonStart_iff, List.forall_mem_cons]

lemma commonPackage_eq (packages : List String) :
    commonPackage packages = ".".intercalate (commonSegments packages) := by
  cases packages <;> rfl

lemma packageSegments_commonPackage (packages : List String) :
    packageSegments (commonPackage packages) = commonSegments packages := by
  rw [commonPackage_eq]
  refine packageSegments_intercalate fun segment hmem => ?_
  cases packages with
  | nil => simp [commonSegments] at hmem
  | cons first rest =>
    have hlead : commonSegments (first :: rest) <+: packageSegments first :=
      (prefix_commonSegments_iff (by simp)).1 List.prefix_rfl first List.mem_cons_self
    exact isSegment_of_mem (hlead.subset hmem)

/-- Lists that the same lists lead are equal. -/
lemma eq_of_prefix_iff (h : ∀ lead, lead <+: as ↔ lead <+: bs) : as = bs :=
  ((h as).1 List.prefix_rfl).eq_of_length_le ((h bs).2 List.prefix_rfl).length_le

/-- **The root package is the longest that all packages lie in.**  Its segments lead every package,
and whatever leads every package leads it; its text is these segments with a dot between each two.
Packages in another order, or listed more or less often, have the same root package. -/
theorem commonPackage_longest (h : packages ≠ []) :
    (∀ package ∈ packages,
        packageSegments (commonPackage packages) <+: packageSegments package) ∧
      (∀ lead, (∀ package ∈ packages, lead <+: packageSegments package) →
        lead <+: packageSegments (commonPackage packages)) ∧
      commonPackage packages = ".".intercalate (packageSegments (commonPackage packages)) ∧
      ∀ others : List String, (∀ package, package ∈ others ↔ package ∈ packages) →
        commonPackage others = commonPackage packages := by
  rw [packageSegments_commonPackage]
  refine ⟨(prefix_commonSegments_iff h).1 List.prefix_rfl,
    fun lead => (prefix_commonSegments_iff h).2, commonPackage_eq packages, fun others hsame => ?_⟩
  have hothers : others ≠ [] := by
    obtain ⟨package, hmem⟩ := List.exists_mem_of_ne_nil packages h
    exact List.ne_nil_of_mem ((hsame package).2 hmem)
  rw [commonPackage_eq, commonPackage_eq]
  refine congrArg _ (eq_of_prefix_iff fun lead => ?_)
  simp only [prefix_commonSegments_iff h, prefix_commonSegments_iff hothers, hsame]

/-- A package that shares letters with the others but not a segment, one with stray dots, and one
that occurs twice. -/
theorem commonPackage_longest_acme :
    let packages := ["com.acme.users", "com..acme.users.", "com.ac", "com.acme.users"]
    packages ≠ [] ∧ commonPackage packages = "com" ∧
      commonPackage ["com.ac", "com.acme.users", "com..acme.users."] = "com" := by
  intro packages
  have hne : packages ≠ [] := by simp [packages]
  have hcommon : commonPackage packages = "com" := by decide +kernel
  obtain ⟨-, -, -, hsame⟩ := commonPackage_longest hne
  refine ⟨hne, hcommon, (hsame _ fun package => ?_).trans hcommon⟩
  simp only [packages, List.mem_cons, List.not_mem_nil, or_false]
  tauto

end Blueprint.DottedName
