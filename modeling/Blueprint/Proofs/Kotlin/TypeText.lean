import Blueprint.Kotlin.TypeText
import Blueprint.Proofs.Kotlin.Shape

/-!
# Types and their Kotlin shapes

Different types may have one Kotlin text, and should: `Option[User]`, `Maybe[User]` and a nullable
`User` are all `User?`, and of an effect only the value remains.  `shape` says what is left of a
type in Kotlin, with the names as the file spells them.  The main result `typeText_eq_iff_shape_eq`
says that the text keeps exactly that: two types are written alike if and only if they have the
same shape.

The proof has two halves.  The text of a type is the text of its shape (`toList_typeText`), for
every type; here the tests by which `nullableText` chooses between adding a mark, adding parentheses
and adding nothing are shown to be tests on the shape.  And the shape of a type with dotted names is
well formed (`HasDottedNames.wellFormed_shape`), so its text determines it.
-/

namespace Blueprint.Kotlin

open Blueprint.DottedName (IsDotted)
open Blueprint.TypeExpr (Wrapper)

/-! ## The shape of a type -/

mutual

/-- The Kotlin shape of a type in a file with the given name plan. -/
def shape (plan : NamePlan) : TypeExpr → Shape
  | .primitive p => .name p.name []
  | .named name args =>
    match Wrapper.ofName? name args.length with
    | some .optional => ((shapes plan args).headD default).orNull
    | some .effect => .function true [] ((shapes plan args).getLastD default)
    | none => .name (plan.spelling name) (shapes plan args)
  | .parameter name _ => .name (escape name) []
  | .nullable t => (shape plan t).orNull
  | .list t => .name "List" [shape plan t]
  | .set t => .name "Set" [shape plan t]
  | .map k v => .name "Map" [shape plan k, shape plan v]
  | .function params result => .function false (shapes plan params) (shape plan result)

/-- The shapes of several types. -/
def shapes (plan : NamePlan) : List TypeExpr → List Shape
  | [] => []
  | t :: ts => shape plan t :: shapes plan ts

end

variable (plan : NamePlan)

lemma shapes_eq_map (ts : List TypeExpr) : shapes plan ts = ts.map (shape plan) := by
  induction ts with
  | nil => rfl
  | cons t ts ih => simp [shapes, ih]

lemma length_of_ofName?_optional {name : String} {arity : Nat}
    (h : Wrapper.ofName? name arity = some .optional) : arity = 1 := by
  unfold Wrapper.ofName? at h
  split at h
  · rename_i hoption
    exact hoption.1
  · split at h <;> cases h

lemma pos_of_ofName?_effect {name : String} {arity : Nat}
    (h : Wrapper.ofName? name arity = some .effect) : 0 < arity := by
  unfold Wrapper.ofName? at h
  split at h
  · cases h
  · split at h
    · rename_i heffect
      exact heffect.1
    · cases h

/-- The three ways a named type gets its shape and its text. -/
lemma named_cases (name : String) (args : List TypeExpr) :
    (∃ t, args = [t] ∧ (TypeExpr.named name args).wrapper? = some .optional ∧
        shape plan (.named name args) = (shape plan t).orNull ∧
        typeText plan (.named name args) = nullableText t (typeText plan t)) ∨
      (∃ others t, args = others ++ [t] ∧ (TypeExpr.named name args).wrapper? = some .effect ∧
        shape plan (.named name args) = .function true [] (shape plan t) ∧
        typeText plan (.named name args) = "suspend () -> " ++ typeText plan t) ∨
      ((TypeExpr.named name args).wrapper? = none ∧
        shape plan (.named name args) = .name (plan.spelling name) (shapes plan args) ∧
        typeText plan (.named name args) =
          if args.isEmpty then plan.spelling name
          else plan.spelling name ++ "<" ++ ", ".intercalate (typeTexts plan args) ++ ">") := by
  rw [shape, typeText]
  -- `wrapper?` of a named type is `Wrapper.ofName?`, by definition
  cases hwrapper : Wrapper.ofName? name args.length with
  | none => exact Or.inr (Or.inr ⟨hwrapper, rfl, rfl⟩)
  | some wrapper =>
    cases wrapper with
    | optional =>
      obtain ⟨t, rfl⟩ := List.length_eq_one_iff.1 (length_of_ofName?_optional hwrapper)
      exact Or.inl ⟨t, rfl, hwrapper, rfl, rfl⟩
    | effect =>
      have hne : args ≠ [] := List.length_pos_iff.1 (pos_of_ofName?_effect hwrapper)
      obtain ⟨others, t, rfl⟩ := (List.eq_nil_or_concat' args).resolve_left hne
      refine Or.inr (Or.inl ⟨others, t, rfl, hwrapper, ?_, ?_⟩)
      · simp [shapes_eq_map]
      · simp [typeTexts_eq_map]

/-! ## The text of a type is the text of its shape -/

lemma isNullable_shape (t : TypeExpr) : (shape plan t).isNullable = rendersNullable t := by
  cases t with
  | named name args =>
    rcases named_cases plan name args with
      ⟨t, -, hwrapper, hshape, -⟩ | ⟨others, t, -, hwrapper, hshape, -⟩ | ⟨hwrapper, hshape, -⟩
    · rw [hshape, Shape.isNullable_orNull]
      simp [rendersNullable, hwrapper]
    · rw [hshape]
      simp [Shape.isNullable, rendersNullable, TypeExpr.isNullable, hwrapper]
    · rw [hshape]
      simp [Shape.isNullable, rendersNullable, TypeExpr.isNullable, hwrapper]
  | nullable t => simp [shape, rendersNullable, TypeExpr.isNullable]
  | primitive p => rfl
  | parameter name bounds => rfl
  | list t => rfl
  | set t => rfl
  | map k v => rfl
  | function params result => rfl

lemma isFunction_shape {t : TypeExpr} (h : rendersNullable t = false) :
    (shape plan t).isFunction = rendersFunction t := by
  cases t with
  | named name args =>
    rcases named_cases plan name args with
      ⟨t, -, hwrapper, -, -⟩ | ⟨others, t, -, hwrapper, hshape, -⟩ | ⟨hwrapper, hshape, -⟩
    · simp [rendersNullable, hwrapper] at h
    · rw [hshape]
      simp [Shape.isFunction, rendersFunction, hwrapper]
    · rw [hshape]
      simp [Shape.isFunction, rendersFunction, hwrapper]
  | nullable t => simp [rendersNullable, TypeExpr.isNullable] at h
  | primitive p => rfl
  | parameter name bounds => rfl
  | list t => rfl
  | set t => rfl
  | map k v => rfl
  | function params result => rfl

/-- The type and the shape agree on when a question mark is added, and where. -/
lemma toList_nullableText {t : TypeExpr} (h : (typeText plan t).toList = (shape plan t).text) :
    (nullableText t (typeText plan t)).toList = (shape plan t).orNull.text := by
  rw [Shape.text_orNull, isNullable_shape, nullableText]
  split
  · exact h
  · rename_i hnull
    rw [Shape.text, isFunction_shape plan (by simpa using hnull)]
    split <;> simp [h]

lemma toList_intercalate_typeTexts {ts : List TypeExpr}
    (h : ∀ t ∈ ts, (typeText plan t).toList = (shape plan t).text) :
    (", ".intercalate (typeTexts plan ts)).toList = Shape.listText (shapes plan ts) := by
  induction ts with
  | nil => rfl
  | cons t rest ih =>
    have hfirst := h t (by simp)
    cases rest with
    | nil => simp [typeTexts, shapes, Shape.listText, Shape.followingText, hfirst]
    | cons u others =>
      have hrest := ih fun t ht => h t (by simp [ht])
      rw [typeTexts] at hrest ⊢
      rw [typeTexts, String.intercalate_cons_cons, String.toList_append, String.toList_append,
        hrest, hfirst]
      simp [shapes, Shape.listText, Shape.followingText]

lemma toList_arguments (word : String) {ts : List TypeExpr} (hne : ts ≠ [])
    (h : ∀ t ∈ ts, (typeText plan t).toList = (shape plan t).text) :
    (word ++ "<" ++ ", ".intercalate (typeTexts plan ts) ++ ">").toList =
      (Shape.name word (shapes plan ts)).text := by
  have hargs : (shapes plan ts).isEmpty = false := by simpa [shapes_eq_map] using hne
  rw [Shape.text, hargs, ← toList_intercalate_typeTexts plan h]
  simp

mutual

/-- The text of a type is the text of its shape. -/
lemma toList_typeText : ∀ t : TypeExpr, (typeText plan t).toList = (shape plan t).text
  | .primitive p => by simp [typeText, shape, Shape.text]
  | .named name args => by
    have hargs := toList_typeText_of_mem args
    rcases named_cases plan name args with
      ⟨t, rfl, -, hshape, htext⟩ | ⟨others, t, rfl, -, hshape, htext⟩ | ⟨-, hshape, htext⟩
    · rw [hshape, htext, toList_nullableText plan (hargs t (by simp))]
    · rw [hshape, htext, String.toList_append, hargs t (by simp)]
      simp [Shape.text, Shape.modifier, Shape.listText]
    · rw [hshape, htext]
      cases args with
      | nil => simp [shapes, Shape.text]
      | cons a rest =>
        rw [if_neg (by simp)]
        exact toList_arguments plan _ (by simp) hargs
  | .parameter name bounds => by simp [typeText, shape, Shape.text]
  | .nullable t => by
    rw [typeText, shape, toList_nullableText plan (toList_typeText t)]
  | .list t => by
    simp [typeText, shape, Shape.text, Shape.listText, Shape.followingText, toList_typeText t]
  | .set t => by
    simp [typeText, shape, Shape.text, Shape.listText, Shape.followingText, toList_typeText t]
  | .map k v => by
    simp [typeText, shape, Shape.text, Shape.listText, Shape.followingText, toList_typeText k,
      toList_typeText v]
  | .function params result => by
    rw [typeText, shape, Shape.text,
      ← toList_intercalate_typeTexts plan (toList_typeText_of_mem params), ← toList_typeText result]
    simp [Shape.modifier]

lemma toList_typeText_of_mem :
    ∀ ts : List TypeExpr, ∀ t ∈ ts, (typeText plan t).toList = (shape plan t).text
  | [] => by simp
  | t :: ts => by
    have hfirst := toList_typeText t
    have hothers := toList_typeText_of_mem ts
    simpa using ⟨hfirst, hothers⟩

end

/-! ## Types with dotted names -/

/-- The names in a type are dotted identifiers, those of its variables included.  The bounds of a
variable do not show in a type. -/
inductive HasDottedNames : TypeExpr → Prop
  | primitive (p : Primitive) : HasDottedNames (.primitive p)
  | named {name : String} {args : List TypeExpr} (hname : IsDotted name)
      (hargs : ∀ a ∈ args, HasDottedNames a) : HasDottedNames (.named name args)
  | parameter {name : String} {bounds : List TypeExpr} (hname : IsDotted name) :
      HasDottedNames (.parameter name bounds)
  | nullable {t : TypeExpr} (h : HasDottedNames t) : HasDottedNames (.nullable t)
  | list {t : TypeExpr} (h : HasDottedNames t) : HasDottedNames (.list t)
  | set {t : TypeExpr} (h : HasDottedNames t) : HasDottedNames (.set t)
  | map {k v : TypeExpr} (hk : HasDottedNames k) (hv : HasDottedNames v) :
      HasDottedNames (.map k v)
  | function {params : List TypeExpr} {result : TypeExpr}
      (hparams : ∀ p ∈ params, HasDottedNames p) (hresult : HasDottedNames result) :
      HasDottedNames (.function params result)

lemma isWord_escape {name : String} (hname : IsDotted name) : IsWord (escape name) := by
  rw [IsWord, unquoted_escape (hname.not_mem_toList (by decide))]
  exact hname

/-- Whatever the plan, a dotted identifier is spelled by a word. -/
lemma isWord_spelling {name : String} (hname : IsDotted name) : IsWord (plan.spelling name) := by
  by_cases hfull : plan.inFull (plan.resolve name) = true
  · have hpath := (plan.isDotted_resolve_of_inFull hname hfull).1
    rw [NamePlan.spelling, if_pos hfull, IsWord,
      unquoted_escapePath (hpath.not_mem_toList (by decide))]
    exact hpath
  · rw [NamePlan.spelling, if_neg hfull]
    exact isWord_escape hname.simple

lemma HasDottedNames.wellFormed_shape {t : TypeExpr} (h : HasDottedNames t) :
    (shape plan t).WellFormed := by
  induction h with
  | primitive p =>
    have hword : IsWord p.name := by cases p <;> decide
    exact .name hword (by simp)
  | @named name args hname hargs ih =>
    rcases named_cases plan name args with
      ⟨t, rfl, -, hshape, -⟩ | ⟨others, t, rfl, -, hshape, -⟩ | ⟨-, hshape, -⟩
    · rw [hshape]
      exact (ih t (by simp)).orNull
    · rw [hshape]
      exact .function (by simp) (ih t (by simp))
    · rw [hshape, shapes_eq_map]
      exact .name (isWord_spelling plan hname) (by simpa using ih)
  | parameter hname => exact .name (isWord_escape hname) (by simp)
  | nullable h ih => exact ih.orNull
  | list h ih => exact .name (by decide) (by simpa using ih)
  | set h ih => exact .name (by decide) (by simpa using ih)
  | map hk hv ihk ihv => exact .name (by decide) (by simpa using ⟨ihk, ihv⟩)
  | function hparams hresult ihparams ihresult =>
    rw [shape, shapes_eq_map]
    exact .function (by simpa using ihparams) ihresult

/-! ## Unambiguous texts -/

/-- **Kotlin texts are unambiguous.**  Two types have the same text exactly if they have the same
shape, and no text has two question marks side by side. -/
theorem typeText_eq_iff_shape_eq {t u : TypeExpr} (ht : HasDottedNames t)
    (hu : HasDottedNames u) :
    (typeText plan t = typeText plan u ↔ shape plan t = shape plan u) ∧
      ¬ "??".toList <:+: (typeText plan t).toList := by
  refine ⟨⟨?_, ?_⟩, ?_⟩
  · intro htext
    refine (ht.wellFormed_shape plan).text_inj (hu.wellFormed_shape plan) ?_
    rw [← toList_typeText, ← toList_typeText, htext]
  · intro hshape
    rw [← String.toList_inj, toList_typeText, toList_typeText, hshape]
  · rw [toList_typeText]
    exact (ht.wellFormed_shape plan).noDouble_text

/-- A nullable function and a function with a nullable result differ by the place of a parenthesis,
here around a suspending result.  Under `Option` the former stays what it is. -/
theorem typeText_eq_iff_shape_eq_nullable :
    let plan : NamePlan := {}
    let user : TypeExpr := .named "IO" [.named "acme.User" []]
    let t : TypeExpr := .nullable (.function [.primitive .int] user)
    let u : TypeExpr := .function [.primitive .int] (.named "Maybe" [.nullable user])
    HasDottedNames t ∧ HasDottedNames u ∧
      typeText plan t = "((Int) -> suspend () -> User)?" ∧
      typeText plan u = "(Int) -> (suspend () -> User)?" ∧
      typeText plan t ≠ typeText plan u ∧
      typeText plan (.named "Option" [t]) = typeText plan t := by
  intro plan user t u
  have huser : HasDottedNames user :=
    .named (by decide) (by simpa using .named (by decide) (by simp))
  have ht : HasDottedNames t := .nullable (.function (by simpa using .primitive .int) huser)
  have hu : HasDottedNames u :=
    .function (by simpa using .primitive .int) (.named (by decide) (by simpa using .nullable huser))
  have hoption : HasDottedNames (.named "Option" [t]) := .named (by decide) (by simpa using ht)
  refine ⟨ht, hu, by decide +kernel, by decide +kernel, ?_, ?_⟩
  · intro htext
    have hshape := (typeText_eq_iff_shape_eq plan ht hu).1.1 htext
    cases hshape
  · exact (typeText_eq_iff_shape_eq plan hoption ht).1.2 rfl

end Blueprint.Kotlin
