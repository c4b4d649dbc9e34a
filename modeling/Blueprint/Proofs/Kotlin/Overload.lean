import Blueprint.Proofs.Kotlin.Capture
import Blueprint.Proofs.Rule.Signature
import Blueprint.Proofs.TypeExpr.Substitution

/-!
# Overloads in interfaces

Kotlin tells the methods of an interface apart by name and parameter types, and accepts no two that
it cannot tell apart.  The rules compare methods as the document writes them and the file has what
is left of them in Kotlin, so the methods of a valid unit may still conflict.

`overload_conflicts` says which do: those of one name whose parameter types have the same shapes.
It also says what such a conflict comes from.  Types are `Faithful` if there are no wrappers in
them, no path is written by two names, and no name is spelled like a built-in type or a variable;
validity excludes conflicts among methods with faithful types.

Without wrappers the shape of a type still is the document's spelling of it, but for the words
(`spelled_shape`).  If the types are faithful, each word stands for one name, which `callOf` finds,
and so types with equal Kotlin texts are spelled alike in the document.
-/

namespace Blueprint

namespace Kotlin

open DottedName (IsDotted)
open TypeExpr (IsPart Readable)

/-- What Kotlin tells methods apart by: the name and the texts of the parameter types. -/
def overloadKey (plan : NamePlan) (m : Method) : String × List String :=
  (m.name, typeTexts plan m.paramTypes)

/-! ## Types without wrappers -/

/-- No part of the type is an optional or an effect wrapper. -/
def WrapperFree (t : TypeExpr) : Prop :=
  ∀ s, IsPart s t → s.wrapper? = none

lemma WrapperFree.wrapper? {t : TypeExpr} (h : WrapperFree t) : t.wrapper? = none :=
  h t .refl

lemma WrapperFree.child {s t : TypeExpr} (h : WrapperFree t) (hs : s ∈ t.children) :
    WrapperFree s :=
  fun r hr => h r (hr.tail hs)

lemma wrapperFree_iff {t : TypeExpr} :
    WrapperFree t ↔ t.wrapper? = none ∧ ∀ s ∈ t.children, WrapperFree s := by
  refine ⟨fun h => ⟨h.wrapper?, fun s => h.child⟩, ?_⟩
  rintro ⟨hwrapper, hchildren⟩ s hs
  rcases Relation.ReflTransGen.cases_tail hs with rfl | ⟨c, hpart, hchild⟩
  · exact hwrapper
  · exact hchildren c hchild s hpart

/-- The words of the Kotlin text of a type that do not depend on the plan: those of built-in types
and of variables. -/
def fixedWords (t : TypeExpr) : List String :=
  builtinNames t ++ t.typeVariables.map escape

lemma builtinNamesOf_eq_map (ts : List TypeExpr) : builtinNamesOf ts = ts.map builtinNames := by
  induction ts with
  | nil => rfl
  | cons t ts ih => simp [builtinNamesOf, ih]

section Words

variable {scope : List String} {s t : TypeExpr}

lemma mem_writtenNames_iff (hwrapper : t.wrapper? = none) {name : String} :
    name ∈ writtenNames t ↔
      (∃ args, t = .named name args) ∨ ∃ s ∈ t.children, name ∈ writtenNames s := by
  cases t with
  | named head args =>
    rw [TypeExpr.wrapper?] at hwrapper
    simp [writtenNames, hwrapper, writtenNamesOf_eq_map, TypeExpr.children, eq_comm]
  | _ => simp [writtenNames, writtenNamesOf_eq_map, TypeExpr.children, or_and_right, exists_or]

lemma builtinNames_subset (ht : Readable scope t) (hwrapper : t.wrapper? = none)
    (hs : s ∈ t.children) : builtinNames s ⊆ builtinNames t := by
  intro word hword
  cases ht with
  | primitive p => cases hs
  | @named head args =>
    rw [TypeExpr.wrapper?] at hwrapper
    simpa [builtinNames, hwrapper, builtinNamesOf_eq_map] using ⟨s, hs, hword⟩
  | parameter => cases hs
  | nullable => simpa [builtinNames, List.mem_singleton.1 hs] using hword
  | list => simpa [builtinNames, List.mem_singleton.1 hs] using Or.inr hword
  | set => simpa [builtinNames, List.mem_singleton.1 hs] using Or.inr hword
  | map =>
    rcases List.mem_pair.1 hs with rfl | rfl
    · simp [builtinNames, hword]
    · simp [builtinNames, hword]
  | @function params result =>
    rcases List.mem_append.1 hs with hparam | hresult
    · simpa [builtinNames, builtinNamesOf_eq_map] using Or.inl ⟨s, hparam, hword⟩
    · rw [List.mem_singleton.1 hresult] at hword
      simp [builtinNames, hword]

lemma fixedWords_subset (ht : Readable scope t) (hwrapper : t.wrapper? = none)
    (hs : s ∈ t.children) : fixedWords s ⊆ fixedWords t := by
  refine List.append_subset.2 ⟨?_, ?_⟩
  · exact List.subset_append_of_subset_left _ (builtinNames_subset ht hwrapper hs)
  · refine List.subset_append_of_subset_right _ (List.map_subset _ fun v hv => ?_)
    exact TypeExpr.mem_typeVariables_iff.2 (Or.inr ⟨s, hs, hv⟩)

lemma isDotted_of_mem_writtenNames {name : String} (ht : Readable scope t) (hfree : WrapperFree t)
    (hname : name ∈ writtenNames t) : IsDotted name := by
  induction t using TypeExpr.childInduction with
  | step t ih =>
    rcases (mem_writtenNames_iff hfree.wrapper?).1 hname with ⟨args, rfl⟩ | ⟨s, hs, hname⟩
    · cases ht with
      | named _ hdotted _ => exact hdotted
    · exact ih s hs (ht.child hs) (hfree.child hs) hname

end Words

/-! ## The document's spelling from the Kotlin shape -/

mutual

/-- A shape as a document spells it, where `call` says how the document calls what a word stands
for. -/
def Shape.spelled (call : String → String) : Shape → String
  | .name word args =>
    if args.isEmpty then call word
    else call word ++ "[" ++ ", ".intercalate (spelledAll call args) ++ "]"
  | .function _ params result =>
    "(" ++ ", ".intercalate (spelledAll call params) ++ ") => " ++ spelled call result
  | .nullable inner => "Option[" ++ spelled call inner ++ "]"

/-- `spelled` on lists of shapes. -/
def Shape.spelledAll (call : String → String) : List Shape → List String
  | [] => []
  | s :: ss => spelled call s :: spelledAll call ss

end

/-- How the words of a type are called: names as they were written, all other words alike in Kotlin
and in documents but for quotes. -/
structure Recalls (plan : NamePlan) (call : String → String) (t : TypeExpr) : Prop where
  names : ∀ name ∈ writtenNames t, call (plan.spelling name) = name
  others : ∀ word ∈ fixedWords t, call word = unquoted word

section Spelled

variable {plan : NamePlan} {call : String → String} {scope : List String} {s t : TypeExpr}

lemma Recalls.child (h : Recalls plan call t) (ht : Readable scope t) (hfree : WrapperFree t)
    (hs : s ∈ t.children) : Recalls plan call s where
  names name hname :=
    h.names name ((mem_writtenNames_iff hfree.wrapper?).2 (Or.inr ⟨s, hs, hname⟩))
  others word hword := h.others word (fixedWords_subset ht hfree.wrapper? hs hword)

lemma Recalls.builtin (h : Recalls plan call t) {word : String} (hword : word ∈ builtinNames t)
    (hquote : unquoted word = word) : call word = word :=
  (h.others word (List.mem_append_left _ hword)).trans hquote

lemma spelledAll_shapes {ts : List TypeExpr}
    (h : ∀ t ∈ ts, (shape plan t).spelled call = t.display) :
    ", ".intercalate (Shape.spelledAll call (shapes plan ts)) = TypeExpr.displayAll ts := by
  have hall : Shape.spelledAll call (shapes plan ts) = ts.map TypeExpr.display := by
    induction ts with
    | nil => rfl
    | cons t ts ih =>
      rw [shapes, Shape.spelledAll, h t (by simp), ih fun t ht => h t (by simp [ht]), List.map_cons]
  rw [hall, TypeExpr.displayAll_eq_intercalate]

/-- A word with arguments is spelled by a name with a bracketed list. -/
lemma spelled_name {word head : String} {ts : List TypeExpr} (hword : call word = head)
    (hne : ts ≠ []) (h : ∀ t ∈ ts, (shape plan t).spelled call = t.display) :
    (Shape.name word (shapes plan ts)).spelled call =
      head ++ "[" ++ TypeExpr.displayAll ts ++ "]" := by
  have hargs : (shapes plan ts).isEmpty = false := by simpa [shapes_eq_map] using hne
  rw [Shape.spelled, if_neg (by simp [hargs]), spelledAll_shapes h, hword]

lemma spelled_name_one {word : String} (hword : call word = word)
    (h : (shape plan t).spelled call = t.display) :
    (Shape.name word [shape plan t]).spelled call = word ++ "[" ++ t.display ++ "]" := by
  have hinner : ∀ u ∈ [t], (shape plan u).spelled call = u.display := by simpa using h
  exact spelled_name hword (by simp) hinner

lemma spelled_orNull {s : Shape} (h : s.isNullable = false) :
    s.orNull.spelled call = "Option[" ++ s.spelled call ++ "]" := by
  cases s with
  | nullable inner => cases h
  | name word args => rfl
  | function suspends params result => rfl

/-- Without wrappers the Kotlin shape of a type still holds its spelling in the document. -/
lemma spelled_shape (ht : Readable scope t) (hfree : WrapperFree t) (h : Recalls plan call t) :
    (shape plan t).spelled call = t.display := by
  induction ht with
  | primitive p =>
    have hquote : unquoted p.name = p.name := by cases p <;> decide
    simp [shape, Shape.spelled, TypeExpr.display, h.builtin (by simp [builtinNames]) hquote]
  | @named name args hname hdotted hargs ih =>
    have hread : Readable scope (.named name args) := .named hname hdotted hargs
    have hwrapper : TypeExpr.Wrapper.ofName? name args.length = none := hfree.wrapper?
    have hcall := h.names name ((mem_writtenNames_iff hfree.wrapper?).2 (Or.inl ⟨args, rfl⟩))
    have hargs : ∀ a ∈ args, (shape plan a).spelled call = a.display := fun a ha =>
      ih a ha (hfree.child ha) (h.child hread hfree ha)
    simp only [shape, hwrapper]
    cases args with
    | nil => simpa [shapes, Shape.spelled, TypeExpr.display] using hcall
    | cons a rest => exact spelled_name hcall (by simp) hargs
  | @parameter name hname hscope hdotted =>
    have hword := h.others (escape name)
      (by simp [fixedWords, TypeExpr.typeVariables, TypeExpr.reached])
    have hquote : unquoted (escape name) = name :=
      unquoted_escape (hdotted.not_mem_toList (by decide))
    simp [shape, Shape.spelled, TypeExpr.display, hword, hquote]
  | @nullable t hscope hnull hinner ih =>
    have hread : Readable scope (.nullable t) := .nullable hscope hnull hinner
    have hs : t ∈ (TypeExpr.nullable t).children := List.mem_singleton_self t
    have hplain : (shape plan t).isNullable = false := by
      rw [isNullable_shape, rendersNullable, hnull, (hfree.child hs).wrapper?]
      rfl
    rw [shape, spelled_orNull hplain, ih (hfree.child hs) (h.child hread hfree hs),
      TypeExpr.display]
  | @list t hinner ih =>
    have hs : t ∈ (TypeExpr.list t).children := List.mem_singleton_self t
    have hword : call "List" = "List" := h.builtin (by simp [builtinNames]) (by decide)
    have hdisplay := ih (hfree.child hs) (h.child (.list hinner) hfree hs)
    simpa [shape, TypeExpr.display] using spelled_name_one hword hdisplay
  | @set t hscope hinner ih =>
    have hs : t ∈ (TypeExpr.set t).children := List.mem_singleton_self t
    have hword : call "Set" = "Set" := h.builtin (by simp [builtinNames]) (by decide)
    have hdisplay := ih (hfree.child hs) (h.child (.set hscope hinner) hfree hs)
    simpa [shape, TypeExpr.display] using spelled_name_one hword hdisplay
  | @map k v hscope hk hv ihk ihv =>
    have hread : Readable scope (.map k v) := .map hscope hk hv
    have hword : call "Map" = "Map" := h.builtin (by simp [builtinNames]) (by decide)
    have hentries : ∀ t ∈ [k, v], (shape plan t).spelled call = t.display := by
      have hkey : k ∈ (TypeExpr.map k v).children := by simp [TypeExpr.children]
      have hvalue : v ∈ (TypeExpr.map k v).children := by simp [TypeExpr.children]
      simpa using ⟨ihk (hfree.child hkey) (h.child hread hfree hkey),
        ihv (hfree.child hvalue) (h.child hread hfree hvalue)⟩
    simpa [shape, shapes, TypeExpr.display, TypeExpr.displayAll, String.append_assoc] using
      spelled_name hword (by simp) hentries
  | @function params result hparams hresult ihparams ihresult =>
    have hread : Readable scope (.function params result) := .function hparams hresult
    have hparam : ∀ t ∈ params, (shape plan t).spelled call = t.display := fun t ht =>
      have hs : t ∈ (TypeExpr.function params result).children := List.mem_append_left _ ht
      ihparams t ht (hfree.child hs) (h.child hread hfree hs)
    have hs : result ∈ (TypeExpr.function params result).children := by simp [TypeExpr.children]
    rw [shape, Shape.spelled, spelledAll_shapes hparam,
      ihresult (hfree.child hs) (h.child hread hfree hs), TypeExpr.display]

end Spelled

/-! ## Words that stand for one name -/

/-- Types whose Kotlin texts keep what tells them apart: they have no wrappers, no path is written
by two names, and no name is spelled like a built-in type or a variable. -/
structure Faithful (plan : NamePlan) (ts : List TypeExpr) : Prop where
  wrapperFree : ∀ t ∈ ts, WrapperFree t
  one_name : ∀ name ∈ namesIn ts, ∀ name' ∈ namesIn ts,
    plan.resolve name = plan.resolve name' → name = name'
  apart : ∀ name ∈ namesIn ts, plan.spelling name ∉ ts.flatMap fixedWords

lemma Faithful.mono {plan : NamePlan} {ts us : List TypeExpr} (h : Faithful plan us)
    (hsub : ts ⊆ us) : Faithful plan ts := by
  have hflat : ∀ f : TypeExpr → List String, ts.flatMap f ⊆ us.flatMap f := by
    intro f word hword
    obtain ⟨t, ht, hmem⟩ := List.mem_flatMap.1 hword
    exact List.mem_flatMap.2 ⟨t, hsub ht, hmem⟩
  have hnames := hflat writtenNames
  refine ⟨fun t ht => h.wrapperFree t (hsub ht), fun name hname name' hname' => ?_,
    fun name hname hfixed => ?_⟩
  · exact h.one_name name (hnames hname) name' (hnames hname')
  · exact h.apart name (hnames hname) (hflat fixedWords hfixed)

/-- How a document that writes some names calls what a word of its Kotlin file stands for. -/
def callOf (plan : NamePlan) (names : List String) (word : String) : String :=
  (names.find? (plan.spelling · = word)).getD (unquoted word)

lemma Faithful.recalls {plan : NamePlan} {ts : List TypeExpr} (h : Faithful plan ts)
    (hnames : ∀ name ∈ namesIn ts, IsDotted name ∧ plan.resolve name ∈ plan.paths) :
    ∀ t ∈ ts, Recalls plan (callOf plan (namesIn ts)) t := by
  intro t ht
  refine ⟨fun name hname => ?_, fun word hword => ?_⟩
  · have hmem : name ∈ namesIn ts := List.mem_flatMap.2 ⟨t, ht, hname⟩
    obtain ⟨name', hfind⟩ : ∃ name', (namesIn ts).find? (plan.spelling · = plan.spelling name) =
        some name' := by
      rw [← Option.isSome_iff_exists, List.find?_isSome]
      exact ⟨name, hmem, by simp⟩
    have hmem' := List.mem_of_find?_eq_some hfind
    have hspelling : plan.spelling name' = plan.spelling name := by
      simpa using List.find?_some hfind
    have hresolve : plan.resolve name' = plan.resolve name := by
      rw [← plan.meaning_spelling (hnames name' hmem').1 (hnames name' hmem').2, hspelling,
        plan.meaning_spelling (hnames name hmem).1 (hnames name hmem).2]
    rw [callOf, hfind, Option.getD_some]
    exact h.one_name name' hmem' name hmem hresolve
  · have hnone : (namesIn ts).find? (plan.spelling · = word) = none := by
      rw [List.find?_eq_none]
      intro name hname hspelling
      rw [decide_eq_true_eq] at hspelling
      exact h.apart name hname (hspelling ▸ List.mem_flatMap.2 ⟨t, ht, hword⟩)
    rw [callOf, hnone, Option.getD_none]

/-! ## Conflicts in interfaces -/

section Conflict

variable {plan : NamePlan} {ts us : List TypeExpr}

lemma typeTexts_eq_iff (hts : ∀ t ∈ ts, HasDottedNames t) (hus : ∀ u ∈ us, HasDottedNames u) :
    typeTexts plan ts = typeTexts plan us ↔ ts.map (shape plan) = us.map (shape plan) := by
  have hone : ∀ {t u}, HasDottedNames t → HasDottedNames u →
      (typeText plan t = typeText plan u ↔ shape plan t = shape plan u) := by
    intro t u ht hu
    rw [← String.toList_inj, toList_typeText, toList_typeText]
    exact ⟨(ht.wellFormed_shape plan).text_inj (hu.wellFormed_shape plan), fun h => by rw [h]⟩
  induction ts generalizing us with
  | nil => cases us <;> simp [typeTexts]
  | cons t ts ih =>
    cases us with
    | nil => simp [typeTexts]
    | cons u us =>
      rw [List.forall_mem_cons] at hts hus
      simp [typeTexts, hone hts.1 hus.1, ih hts.2 hus.2]

/-- Faithful types with one list of Kotlin texts have one list of spellings. -/
lemma Faithful.map_display_eq (h : Faithful plan (ts ++ us))
    (hread : ∀ t ∈ ts ++ us, ∃ scope, Readable scope t)
    (hpaths : ∀ name ∈ namesIn (ts ++ us), plan.resolve name ∈ plan.paths)
    (htexts : typeTexts plan ts = typeTexts plan us) :
    ts.map TypeExpr.display = us.map TypeExpr.display := by
  have hdotted : ∀ t ∈ ts ++ us, HasDottedNames t := fun t ht =>
    (hread t ht).elim fun _ hscope => hscope.hasDottedNames
  have hnames : ∀ name ∈ namesIn (ts ++ us), IsDotted name ∧ plan.resolve name ∈ plan.paths := by
    intro name hname
    obtain ⟨t, ht, hwritten⟩ := List.mem_flatMap.1 hname
    obtain ⟨scope, hscope⟩ := hread t ht
    exact ⟨isDotted_of_mem_writtenNames hscope (h.wrapperFree t ht) hwritten, hpaths name hname⟩
  -- one reading of the words serves both lists, so it cannot tell them apart if their shapes agree
  have hcall := h.recalls hnames
  generalize callOf plan (namesIn (ts ++ us)) = call at hcall
  have hspelled : ∀ t ∈ ts ++ us, (shape plan t).spelled call = t.display := by
    intro t ht
    obtain ⟨scope, hscope⟩ := hread t ht
    exact spelled_shape hscope (h.wrapperFree t ht) (hcall t ht)
  rw [List.forall_mem_append] at hdotted hspelled
  have hshapes := (typeTexts_eq_iff hdotted.1 hdotted.2).1 htexts
  calc ts.map TypeExpr.display
      = ts.map fun t => (shape plan t).spelled call := (List.map_congr_left hspelled.1).symm
    _ = (ts.map (shape plan)).map (Shape.spelled call) := by simp
    _ = (us.map (shape plan)).map (Shape.spelled call) := by rw [hshapes]
    _ = us.map fun u => (shape plan u).spelled call := by simp
    _ = us.map TypeExpr.display := List.map_congr_left hspelled.2

end Conflict

end Kotlin

lemma SourceUnit.resolve_mem_paths {u : SourceUnit} {p : Port} {m : Method} (hp : p ∈ u.ports)
    (hm : m ∈ p.methods) :
    ∀ name ∈ Kotlin.namesIn m.paramTypes, u.namePlan.resolve name ∈ u.namePlan.paths := by
  intro name hname
  obtain ⟨t, ht, hwritten⟩ := List.mem_flatMap.1 hname
  have hsignature : t ∈ m.signatureTypes := by
    rw [Method.signatureTypes, List.append_assoc]
    exact List.mem_append_right _ (List.mem_append_left _ ht)
  have hport : t ∈ p.referencedTypes :=
    List.mem_append_right _ (List.mem_flatMap.2 ⟨m, hm, hsignature⟩)
  have hunit : t ∈ u.mentionedTypes := by
    have hmem : t ∈ u.ports.flatMap Port.referencedTypes := List.mem_flatMap.2 ⟨p, hp, hport⟩
    simp only [mentionedTypes, List.mem_append, hmem, or_true, true_or]
  exact (Kotlin.mem_paths_ofTypes ..).2
    (Or.inr ⟨name, List.mem_flatMap.2 ⟨t, hunit, hwritten⟩, rfl⟩)

section Valid

open Kotlin

variable {text : List Char} {u : SourceUnit} {p : Port} {m m' : Method}

lemma hasDottedNames_of_parse (h : Document.parse text = .ok u) (hp : p ∈ u.ports)
    (hm : m ∈ p.methods) : ∀ t ∈ m.paramTypes, HasDottedNames t := fun t ht =>
  (Rule.readable_paramTypes_of_parse h hp hm t ht).hasDottedNames

/-- By validity, methods of one name differ in the spelling of their types. -/
lemma map_display_ne_of_isValid {identifier : Pattern} {i j : Nat}
    (h : Document.parse text = .ok u) (hvalid : (u.verdict identifier).isValid = true)
    (hp : p ∈ u.ports) (hij : i < j) (hi : p.methods[i]? = some m) (hj : p.methods[j]? = some m')
    (hname : m.name = m'.name) :
    m.paramTypes.map TypeExpr.display ≠ m'.paramTypes.map TypeExpr.display := by
  have hsignatures : (p.methods.map Rule.signature).Nodup := by
    obtain ⟨-, -, hports⟩ := Rule.violations_eq_nil_iff.1 ((Rule.isValid_iff ..).1 hvalid)
    exact (Rule.checkPort_eq_nil_iff.1 (hports p hp)).2
  intro hsame
  have hsignature : Rule.signature m = Rule.signature m' :=
    (Rule.signature_eq_iff (hasDottedNames_of_parse h hp (List.mem_of_getElem? hi))
      (hasDottedNames_of_parse h hp (List.mem_of_getElem? hj))).2 ⟨hname, hsame⟩
  exact not_nodup_map_iff.2 ⟨i, j, m, m', hij, hi, hj, hsignature⟩ hsignatures

lemma map_display_eq_of_faithful (h : Document.parse text = .ok u) (hp : p ∈ u.ports)
    (hm : m ∈ p.methods) (hm' : m' ∈ p.methods)
    (hfaithful : Faithful u.namePlan (m.paramTypes ++ m'.paramTypes))
    (hkey : overloadKey u.namePlan m = overloadKey u.namePlan m') :
    m.paramTypes.map TypeExpr.display = m'.paramTypes.map TypeExpr.display := by
  have hread : ∀ t ∈ m.paramTypes ++ m'.paramTypes, ∃ scope, t.Readable scope := by
    rw [List.forall_mem_append]
    exact ⟨fun t ht => ⟨_, Rule.readable_paramTypes_of_parse h hp hm t ht⟩,
      fun t ht => ⟨_, Rule.readable_paramTypes_of_parse h hp hm' t ht⟩⟩
  have hpaths : ∀ name ∈ namesIn (m.paramTypes ++ m'.paramTypes),
      u.namePlan.resolve name ∈ u.namePlan.paths := by
    rw [namesIn, List.flatMap_append, List.forall_mem_append]
    exact ⟨SourceUnit.resolve_mem_paths hp hm, SourceUnit.resolve_mem_paths hp hm'⟩
  exact hfaithful.map_display_eq hread hpaths (Prod.mk.inj hkey).2

/-- **Conflicting overloads in valid units.**  In an interface of a unit that was read and is valid,
two methods have the same name and parameter texts exactly if they have the same name and parameter
shapes.  The types of two such methods are spelled differently in the document and are not faithful.
In particular an interface with faithful types has no conflicting overloads. -/
theorem overload_conflicts {identifier : Pattern} (h : Document.parse text = .ok u)
    (hvalid : (u.verdict identifier).isValid = true) (hp : p ∈ u.ports) :
    ((p.methods.map (overloadKey u.namePlan)).Nodup ↔
        (p.methods.map fun m => (m.name, m.paramTypes.map (shape u.namePlan))).Nodup) ∧
      (∀ (i j : Nat) (m m' : Method), i < j → p.methods[i]? = some m → p.methods[j]? = some m' →
        overloadKey u.namePlan m = overloadKey u.namePlan m' →
          m.paramTypes.map TypeExpr.display ≠ m'.paramTypes.map TypeExpr.display ∧
            ¬ Faithful u.namePlan (m.paramTypes ++ m'.paramTypes)) ∧
      (Faithful u.namePlan (p.methods.flatMap Method.paramTypes) →
        (p.methods.map (overloadKey u.namePlan)).Nodup) := by
  refine ⟨nodup_map_congr fun m hm m' hm' => ?_, fun i j m m' hij hi hj hkey => ?_,
    fun hfaithful => ?_⟩
  · simp only [overloadKey, Prod.mk.injEq,
      typeTexts_eq_iff (hasDottedNames_of_parse h hp hm) (hasDottedNames_of_parse h hp hm')]
  · have hdisplay := map_display_ne_of_isValid h hvalid hp hij hi hj (Prod.mk.inj hkey).1
    exact ⟨hdisplay, fun hfaithful => hdisplay (map_display_eq_of_faithful h hp
      (List.mem_of_getElem? hi) (List.mem_of_getElem? hj) hfaithful hkey)⟩
  · by_contra hrepeated
    obtain ⟨i, j, m, m', hij, hi, hj, hkey⟩ := not_nodup_map_iff.1 hrepeated
    have hm := List.mem_of_getElem? hi
    have hm' := List.mem_of_getElem? hj
    have hboth : m.paramTypes ++ m'.paramTypes ⊆ p.methods.flatMap Method.paramTypes :=
      List.append_subset.2 ⟨fun t ht => List.mem_flatMap.2 ⟨m, hm, ht⟩,
        fun t ht => List.mem_flatMap.2 ⟨m', hm', ht⟩⟩
    exact map_display_ne_of_isValid h hvalid hp hij hi hj (Prod.mk.inj hkey).1
      (map_display_eq_of_faithful h hp hm hm' (hfaithful.mono hboth) hkey)

end Valid

/-- A method for one value and a method for a list of values do not conflict. -/
theorem overload_conflicts_list :
    let text := "[[ports]]\nname = \"P\"\n" ++
      "[[ports.methods]]\nname = \"f\"\n[[ports.methods.params]]\nname = \"a\"\ntype = \"A\"\n" ++
      "[[ports.methods]]\nname = \"f\"\n[[ports.methods.params]]\nname = \"a\"\ntype = \"Seq[A]\"\n"
    let one : TypeExpr := .named "A" []
    let p : Port :=
      { name := "P"
        methods := [{ name := "f", params := [⟨"a", one, none⟩] },
          { name := "f", params := [⟨"a", .list one, none⟩] }] }
    let u : SourceUnit := { ports := [p] }
    Document.parse text.toList = .ok u ∧ (u.verdict .empty).isValid = true ∧
      Kotlin.Faithful u.namePlan [one, .list one] ∧
      (p.methods.map (Kotlin.overloadKey u.namePlan)).Nodup := by
  intro text one p u
  have hparse : Document.parse text.toList = .ok u := eq_ok_of_toOption (by decide +kernel)
  have hvalid : (u.verdict .empty).isValid = true := by decide +kernel
  have hone : Kotlin.WrapperFree one := by
    rw [Kotlin.wrapperFree_iff]
    exact ⟨by decide, by simp [one, TypeExpr.children]⟩
  have hfaithful : Kotlin.Faithful u.namePlan [one, .list one] := by
    refine ⟨?_, by decide +kernel, by decide +kernel⟩
    have hlist : Kotlin.WrapperFree (.list one) := by
      rw [Kotlin.wrapperFree_iff]
      exact ⟨rfl, by simpa [TypeExpr.children] using hone⟩
    simpa using ⟨hone, hlist⟩
  exact ⟨hparse, hvalid, hfaithful, (overload_conflicts hparse hvalid (by simp [u])).2.2 hfaithful⟩

/-- Two valid documents with conflicting overloads: one class is written with its package and
without, and a value that may be missing is wrapped in two ways. -/
theorem isValid_overload_conflict :
    let method (type : String) := "[[ports.methods]]\nname = \"f\"\n" ++
      "[[ports.methods.params]]\nname = \"x\"\ntype = \"" ++ type ++ "\"\n"
    let document (type type' : String) :=
      "package = \"a\"\n[[ports]]\nname = \"P\"\n" ++ method type ++ method type'
    let judged (text : String) : Option (Bool × String) := do
      let u ← (Document.parse text.toList).toOption
      let identifier ← (Pattern.parse Rule.defaultPattern).toOption
      return ((u.verdict identifier).isValid, Kotlin.renderUnit {} u)
    judged (document "T" "a.T") = some (true,
        "package a\n\ninterface P \x7b\n    fun f(x: T)\n\n    fun f(x: T)\n\x7d\n") ∧
      judged (document "Option[T]" "Maybe[T]") = some (true,
        "package a\n\ninterface P \x7b\n    fun f(x: T?)\n\n    fun f(x: T?)\n\x7d\n") := by
  decide +kernel

end Blueprint
