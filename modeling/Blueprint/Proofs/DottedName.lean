import Blueprint.DottedName
import Blueprint.TypeExpr.Token
import Mathlib.Tactic.Lemma

/-!
# Segments, simple names and packages

`DottedName` cuts a name at its dots in three ways: `segments` cuts at every dot, `simple` and
`package?` cut at the last one.  This file says how the three fit together, and how each behaves on
a name put together by `qualify`.

The cut at the last dot is described once, by `package?_cases`: a name either has no dot and is its
own simple name, or it is its package, a dot and its simple name.  Every later fact about bare and
dotted names goes through that dichotomy rather than through the list operations underneath.

`IsDotted` is the notion of a dotted identifier that the reader of type expressions enforces:
characters of names only, and no empty segment.  It is closed under cutting and joining at a dot
(`isDotted_append_dot`), which is what lets a fact about a path be read off its parts.
-/

namespace Blueprint

/-! ## Cutting lists of characters -/

namespace Text

/-- The splitting of this library is the one of the standard library, so its lemmas apply. -/
lemma splitOn_eq_list_splitOn (sep : Char) (s : List Char) : splitOn sep s = s.splitOn sep := by
  induction s with
  | nil => simp [splitOn]
  | cons c rest ih =>
    rw [splitOn, List.splitOn_cons_eq_if_modifyHead, ih]
    by_cases hc : c = sep
    · simp [hc]
    · obtain ⟨piece, pieces, hpieces⟩ := List.exists_cons_of_ne_nil (List.splitOn_ne_nil sep rest)
      simp [hc, hpieces]

lemma splitOn_append_cons (sep : Char) (s t : List Char) :
    splitOn sep (s ++ sep :: t) = splitOn sep s ++ splitOn sep t := by
  simp only [splitOn_eq_list_splitOn, List.splitOn_append_cons_self]

lemma intercalate_splitOn (sep : Char) (s : List Char) : [sep].intercalate (splitOn sep s) = s := by
  rw [splitOn_eq_list_splitOn, List.intercalate_splitOn]

lemma mem_of_mem_splitOn {sep c : Char} {s piece : List Char} (h : piece ∈ splitOn sep s)
    (hc : c ∈ piece) : c ∈ s := by
  rw [← intercalate_splitOn sep s]
  simp only [List.intercalate, List.mem_flatten]
  refine ⟨piece, ?_, hc⟩
  generalize splitOn sep s = pieces at h
  induction pieces with
  | nil => simp at h
  | cons p ps ih =>
    cases ps with
    | nil => simpa using h
    | cons q qs =>
      rcases List.mem_cons.1 h with rfl | h
      · simp
      · exact List.mem_cons_of_mem _ (List.mem_cons_of_mem _ (ih h))

lemma not_mem_of_mem_splitOn {sep : Char} {s piece : List Char} (h : piece ∈ splitOn sep s) :
    sep ∉ piece := by
  induction s generalizing piece with
  | nil => simp_all [splitOn]
  | cons c rest ih =>
    rw [splitOn] at h
    by_cases hc : c = sep
    · rw [if_pos hc] at h
      rcases List.mem_cons.1 h with rfl | h
      · simp
      · exact ih h
    · obtain ⟨first, others, hpieces⟩ := List.exists_cons_of_ne_nil (splitOn_ne_nil sep rest)
      simp only [if_neg hc, hpieces] at h
      rcases List.mem_cons.1 h with rfl | h
      · simpa [Ne.symm hc] using ih (hpieces ▸ List.mem_cons_self)
      · exact ih (hpieces ▸ List.mem_cons_of_mem first h)

/-- A text with a separator in it can be cut at the last one. -/
lemma exists_last_cut {sep : Char} {s : List Char} (h : sep ∈ s) :
    ∃ before after, s = before ++ sep :: after ∧ sep ∉ after := by
  obtain ⟨after, before, hs, hafter⟩ := List.eq_append_cons_of_mem (List.mem_reverse.2 h)
  refine ⟨before.reverse, after.reverse, ?_, by simpa using hafter⟩
  simpa using congrArg List.reverse hs

lemma bne_of_mem_reverse {sep : Char} {s : List Char} (h : sep ∉ s) :
    ∀ c ∈ s.reverse, (c != sep) = true := by
  intro c hc
  simpa using ne_of_mem_of_not_mem (List.mem_reverse.1 hc) h

lemma afterLast_of_not_mem {sep : Char} {s : List Char} (h : sep ∉ s) : afterLast sep s = s := by
  rw [afterLast, ← List.append_nil s.reverse, List.takeWhile_append_of_pos (bne_of_mem_reverse h)]
  simp

lemma afterLast_append_cons {sep : Char} {s t : List Char} (h : sep ∉ t) :
    afterLast sep (s ++ sep :: t) = t := by
  rw [afterLast, List.reverse_append, List.reverse_cons, List.append_assoc,
    List.takeWhile_append_of_pos (bne_of_mem_reverse h)]
  simp

lemma beforeLast?_append_cons {sep : Char} {s t : List Char} (h : sep ∉ t) :
    beforeLast? sep (s ++ sep :: t) = some s := by
  rw [beforeLast?, if_pos (by simp), List.reverse_append, List.reverse_cons, List.append_assoc,
    List.dropWhile_append_of_pos (bne_of_mem_reverse h)]
  simp

/-- The longest front of a kind ends where a character of another kind comes. -/
lemma takeWhile_append_of_head {p : Char → Bool} {front rest : List Char}
    (hfront : ∀ c ∈ front, p c = true) (hrest : ∀ c ∈ rest.head?, p c = false) :
    (front ++ rest).takeWhile p = front := by
  rw [List.takeWhile_append_of_pos hfront]
  cases rest with
  | nil => simp
  | cons c tail => simp [hrest c rfl]

end Text

namespace DottedName

open Blueprint.Text
open Blueprint.TypeExpr (isNameChar hasStrayDot)

/-! ## The cut at the last dot -/

lemma package?_eq_none_iff {name : String} : package? name = none ↔ '.' ∉ name.toList := by
  simp [package?, beforeLast?]

lemma simple_of_bare {name : String} (h : package? name = none) : simple name = name := by
  rw [simple, afterLast_of_not_mem (package?_eq_none_iff.1 h), String.ofList_toList]

lemma package?_append_dot (package : String) {name : String} (h : package? name = none) :
    package? (package ++ "." ++ name) = some package := by
  have hcut : (package ++ "." ++ name).toList = package.toList ++ '.' :: name.toList := by simp
  rw [package?, hcut, beforeLast?_append_cons (package?_eq_none_iff.1 h)]
  simp

lemma simple_append_dot (package : String) {name : String} (h : package? name = none) :
    simple (package ++ "." ++ name) = name := by
  have hcut : (package ++ "." ++ name).toList = package.toList ++ '.' :: name.toList := by simp
  rw [simple, hcut, afterLast_append_cons (package?_eq_none_iff.1 h), String.ofList_toList]

/-- A name either is bare, and then its own simple name, or is its package, a dot and its simple
name. -/
lemma package?_cases (name : String) :
    (package? name = none ∧ simple name = name) ∨
      ∃ package, package? name = some package ∧ name = package ++ "." ++ simple name := by
  by_cases h : '.' ∈ name.toList
  · right
    obtain ⟨before, after, hcut, hafter⟩ := exists_last_cut h
    have hname : name = String.ofList before ++ "." ++ String.ofList after := by
      rw [← String.toList_inj]
      simp [hcut]
    have hbare : package? (String.ofList after) = none := by
      rw [package?_eq_none_iff]
      simpa using hafter
    have hsimple : simple name = String.ofList after := by
      rw [hname]
      exact simple_append_dot _ hbare
    refine ⟨String.ofList before, ?_, ?_⟩
    · rw [hname]
      exact package?_append_dot _ hbare
    · rw [hsimple]
      exact hname
  · left
    have hbare : package? name = none := package?_eq_none_iff.2 h
    exact ⟨hbare, simple_of_bare hbare⟩

lemma eq_append_simple {name package : String} (h : package? name = some package) :
    name = package ++ "." ++ simple name := by
  rcases package?_cases name with ⟨hnone, -⟩ | ⟨q, hq, hname⟩
  · rw [hnone] at h
    cases h
  · rw [h, Option.some.injEq] at hq
    rw [hq]
    exact hname

@[simp] lemma package?_simple (name : String) : package? (simple name) = none := by
  rw [package?_eq_none_iff, simple, String.toList_ofList]
  by_cases h : '.' ∈ name.toList
  · obtain ⟨before, after, hcut, hafter⟩ := exists_last_cut h
    rw [hcut, afterLast_append_cons hafter]
    exact hafter
  · rw [afterLast_of_not_mem h]
    exact h

/-! ## Qualified names -/

@[simp] lemma qualify_empty (name : String) : qualify "" name = name := by
  simp [qualify]

lemma qualify_of_ne_empty {package : String} (h : package ≠ "") (name : String) :
    qualify package name = package ++ "." ++ name := by
  simp [qualify, h]

lemma qualify_injective (package : String) : Function.Injective (qualify package) := by
  intro name other h
  by_cases hpackage : package = ""
  · simpa [hpackage] using h
  · simpa [qualify_of_ne_empty hpackage] using h

lemma simple_qualify (package : String) {name : String} (h : package? name = none) :
    simple (qualify package name) = name := by
  by_cases hp : package = ""
  · rw [hp, qualify_empty, simple_of_bare h]
  · rw [qualify_of_ne_empty hp, simple_append_dot package h]

lemma package?_qualify (package : String) {name : String} (h : package? name = none) :
    package? (qualify package name) = if package = "" then none else some package := by
  by_cases hp : package = ""
  · rw [if_pos hp, hp, qualify_empty, h]
  · rw [if_neg hp, qualify_of_ne_empty hp, package?_append_dot package h]

lemma qualify_simple {path package : String} (h : package? path = some package)
    (hp : package ≠ "") : qualify package (simple path) = path := by
  rw [qualify_of_ne_empty hp]
  exact (eq_append_simple h).symm

/-! ## Dotted identifiers -/

/-- A dotted identifier: made of characters of names, with no dot first, last or beside another. -/
structure IsDotted (name : String) : Prop where
  isNameChar_of_mem : ∀ c ∈ name.toList, isNameChar c = true
  hasStrayDot_eq_false : hasStrayDot name.toList = false

instance (name : String) : Decidable (IsDotted name) :=
  decidable_of_iff (name.toList.all isNameChar = true ∧ hasStrayDot name.toList = false)
    ⟨fun h => ⟨List.all_eq_true.1 h.1, h.2⟩, fun h => ⟨List.all_eq_true.2 h.1, h.2⟩⟩

lemma hasStrayDot_append_cons (s t : List Char) :
    hasStrayDot (s ++ '.' :: t) = (hasStrayDot s || hasStrayDot t) := by
  simp only [hasStrayDot, splitOn_append_cons, List.any_append]

/-- A path is a dotted identifier exactly when both sides of a dot in it are. -/
lemma isDotted_append_dot {package name : String} :
    IsDotted (package ++ "." ++ name) ↔ IsDotted package ∧ IsDotted name := by
  have hcut : (package ++ "." ++ name).toList = package.toList ++ '.' :: name.toList := by simp
  have hdot : isNameChar '.' = true := by decide
  constructor
  · rintro ⟨hchars, hstray⟩
    rw [hcut] at hchars hstray
    rw [hasStrayDot_append_cons, Bool.or_eq_false_iff] at hstray
    exact ⟨⟨fun c hc => hchars c (by simp [hc]), hstray.1⟩,
      ⟨fun c hc => hchars c (by simp [hc]), hstray.2⟩⟩
  · rintro ⟨hp, hn⟩
    refine ⟨?_, ?_⟩
    · intro c hc
      rw [hcut, List.mem_append, List.mem_cons] at hc
      rcases hc with hc | rfl | hc
      · exact hp.isNameChar_of_mem c hc
      · exact hdot
      · exact hn.isNameChar_of_mem c hc
    · rw [hcut, hasStrayDot_append_cons, hp.hasStrayDot_eq_false, hn.hasStrayDot_eq_false]
      rfl

namespace IsDotted

variable {name : String}

lemma ne_empty (h : IsDotted name) : name ≠ "" := by
  rintro rfl
  exact absurd h.hasStrayDot_eq_false (by decide)

lemma not_mem_toList (h : IsDotted name) {c : Char} (hc : isNameChar c = false) :
    c ∉ name.toList := by
  intro hmem
  rw [h.isNameChar_of_mem c hmem] at hc
  cases hc

lemma package {p : String} (h : IsDotted name) (hp : package? name = some p) : IsDotted p := by
  rw [eq_append_simple hp, isDotted_append_dot] at h
  exact h.1

lemma simple (h : IsDotted name) : IsDotted (simple name) := by
  rcases package?_cases name with ⟨-, hsimple⟩ | ⟨p, -, hname⟩
  · rw [hsimple]
    exact h
  · rw [hname, isDotted_append_dot] at h
    exact h.2

end IsDotted

end DottedName

end Blueprint
