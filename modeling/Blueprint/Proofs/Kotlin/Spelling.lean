import Blueprint.Kotlin.Signature
import Blueprint.Proofs.Kotlin.TypeText

/-!
# The names in a text

Texts that depend on a name plan do so in one way only: at certain places they hold a name as the
plan spells it, and everything else is fixed.  `Composes f names` says this of the text `f plan`,
where `names` are the names that are spelled.  It is stated with the fragments of the text, so it
gives both that a plan matters only by how it spells `names` and that each of them is spelled.

Texts of this kind are closed under everything that the writer does with texts and lines.  The
lemmas here say so once for each operation, then for types and for the parts of declarations that
fit on a line.  Of a type the names are `writtenNames`, unless type variables inside it carry
bounds: these are collected but never written, so the types here are `Unbounded`.
-/

namespace Blueprint.Kotlin

open Blueprint.TypeExpr (Wrapper)

/-! ## Fragments -/

/-- A piece of a text: a fixed text, or a name as the plan spells it. -/
inductive Fragment where
  | fixed (text : String)
  | spelled (name : String)
deriving DecidableEq, Repr

/-- The text of a fragment. -/
def Fragment.text (plan : NamePlan) : Fragment → String
  | .fixed text => text
  | .spelled name => plan.spelling name

/-- The text of several fragments. -/
def fill (plan : NamePlan) : List Fragment → String
  | [] => ""
  | fragment :: fragments => fragment.text plan ++ fill plan fragments

@[simp] lemma fill_nil (plan : NamePlan) : fill plan [] = "" := rfl

@[simp] lemma fill_cons (plan : NamePlan) (fragment : Fragment) (fragments : List Fragment) :
    fill plan (fragment :: fragments) = fragment.text plan ++ fill plan fragments := rfl

@[simp] lemma fill_append (plan : NamePlan) (fs gs : List Fragment) :
    fill plan (fs ++ gs) = fill plan fs ++ fill plan gs := by
  induction fs with
  | nil => simp
  | cons f fs ih => simp [ih, String.append_assoc]

/-- Fragments look the same under two plans that spell their names alike. -/
lemma fill_congr {plan plan' : NamePlan} {fragments : List Fragment}
    (h : ∀ name, .spelled name ∈ fragments → plan.spelling name = plan'.spelling name) :
    fill plan fragments = fill plan' fragments := by
  induction fragments with
  | nil => rfl
  | cons f fs ih =>
    have hrest : fill plan fs = fill plan' fs :=
      ih fun name hname => h name (List.mem_cons_of_mem f hname)
    have hfirst : f.text plan = f.text plan' := by
      cases f with
      | fixed text => rfl
      | spelled name => exact h name List.mem_cons_self
    rw [fill_cons, fill_cons, hfirst, hrest]

/-- Under every plan the text is made of the same fragments, and those spell exactly `names`. -/
def Composes (f : NamePlan → String) (names : List String) : Prop :=
  ∃ fragments : List Fragment, (∀ plan, f plan = fill plan fragments) ∧
    ∀ name, .spelled name ∈ fragments ↔ name ∈ names

namespace Composes

variable {f g : NamePlan → String} {names names' : List String}

lemma congr (h : Composes f names) (hnames : ∀ name, name ∈ names ↔ name ∈ names') :
    Composes f names' := by
  obtain ⟨fragments, htext, hspelled⟩ := h
  exact ⟨fragments, htext, fun name => (hspelled name).trans (hnames name)⟩

lemma of_eq (h : Composes f names) (hfg : ∀ plan, g plan = f plan) : Composes g names := by
  obtain ⟨fragments, htext, hspelled⟩ := h
  exact ⟨fragments, fun plan => (hfg plan).trans (htext plan), hspelled⟩

lemma fixed (text : String) : Composes (fun _ => text) [] :=
  ⟨[.fixed text], fun plan => by simp [Fragment.text], by simp⟩

lemma spelling (name : String) : Composes (fun plan => plan.spelling name) [name] :=
  ⟨[.spelled name], fun plan => by simp [Fragment.text], by simp⟩

lemma append (hf : Composes f names) (hg : Composes g names') :
    Composes (fun plan => f plan ++ g plan) (names ++ names') := by
  obtain ⟨fs, hftext, hfnames⟩ := hf
  obtain ⟨gs, hgtext, hgnames⟩ := hg
  refine ⟨fs ++ gs, fun plan => ?_, fun name => ?_⟩
  · simp only [hftext plan, hgtext plan, fill_append]
  · rw [List.mem_append, List.mem_append, hfnames name, hgnames name]

lemma fixed_append (text : String) (hf : Composes f names) :
    Composes (fun plan => text ++ f plan) names :=
  (fixed text).append hf

lemma append_fixed (hf : Composes f names) (text : String) :
    Composes (fun plan => f plan ++ text) names :=
  (hf.append (fixed text)).congr (by simp)

/-- Texts that are joined keep their names. -/
lemma intercalate (separator : String) {α : Type} {items : List α} {text : NamePlan → α → String}
    {names : α → List String} (h : ∀ a ∈ items, Composes (text · a) (names a)) :
    Composes (fun plan => separator.intercalate (items.map (text plan))) (items.flatMap names) := by
  induction items with
  | nil => exact fixed ""
  | cons a rest ih =>
    have ha : Composes (text · a) (names a) := h a List.mem_cons_self
    have hrest := ih fun b hb => h b (List.mem_cons_of_mem a hb)
    cases rest with
    | nil => simpa using ha
    | cons b others =>
      refine ((ha.append_fixed separator).append hrest).of_eq fun plan => ?_
      simp only [List.map_cons, String.intercalate_cons_cons]

end Composes

/-! ## Lines -/

/-- A line whose text is still in fragments. -/
structure Template where
  depth : Nat
  fragments : List Fragment

/-- The line under a plan. -/
def Template.line (plan : NamePlan) (t : Template) : Line :=
  ⟨t.depth, fill plan t.fragments⟩

/-- Under every plan the lines are made from the same templates, and those spell exactly `names`. -/
def LinesCompose (f : NamePlan → List Line) (names : List String) : Prop :=
  ∃ templates : List Template, (∀ plan, f plan = templates.map (Template.line plan)) ∧
    ∀ name, (∃ t ∈ templates, .spelled name ∈ t.fragments) ↔ name ∈ names

namespace LinesCompose

variable {f g : NamePlan → List Line} {names names' : List String}

/-- What plans have in common about the names, they have in common about the lines. -/
lemma eq_of_agree (h : LinesCompose f names) {plan plan' : NamePlan}
    (hagree : ∀ name ∈ names, plan.spelling name = plan'.spelling name) : f plan = f plan' := by
  obtain ⟨templates, hlines, hnames⟩ := h
  rw [hlines plan, hlines plan']
  refine List.map_congr_left fun t ht => ?_
  have hfill : fill plan t.fragments = fill plan' t.fragments :=
    fill_congr fun name hname => hagree name ((hnames name).1 ⟨t, ht, hname⟩)
  simp only [Template.line, hfill]

/-- Each of the names has a place on a line, the same under every plan. -/
lemma exists_place (h : LinesCompose f names) {name : String} (hname : name ∈ names) :
    ∃ (index : Nat) (before after : List Fragment), ∀ plan, (f plan)[index]?.map Line.text =
      some (fill plan before ++ plan.spelling name ++ fill plan after) := by
  obtain ⟨templates, hlines, hnames⟩ := h
  obtain ⟨t, ht, hspelled⟩ := (hnames name).2 hname
  obtain ⟨index, hindex⟩ := List.getElem?_of_mem ht
  obtain ⟨before, after, hfragments⟩ := List.append_of_mem hspelled
  refine ⟨index, before, after, fun plan => ?_⟩
  simp [hlines plan, hindex, Template.line, hfragments, Fragment.text, String.append_assoc]

lemma congr (h : LinesCompose f names) (hnames : ∀ name, name ∈ names ↔ name ∈ names') :
    LinesCompose f names' := by
  obtain ⟨templates, hlines, hspelled⟩ := h
  exact ⟨templates, hlines, fun name => (hspelled name).trans (hnames name)⟩

lemma of_eq (h : LinesCompose f names) (hfg : ∀ plan, g plan = f plan) : LinesCompose g names := by
  obtain ⟨templates, hlines, hspelled⟩ := h
  exact ⟨templates, fun plan => (hfg plan).trans (hlines plan), hspelled⟩

lemma fixed (lines : List Line) : LinesCompose (fun _ => lines) [] := by
  refine ⟨lines.map fun l => ⟨l.depth, [.fixed l.text]⟩, fun plan => ?_, by simp⟩
  simp [Template.line, Fragment.text, Function.comp_def]

lemma line {f : NamePlan → String} (h : Composes f names) :
    LinesCompose (fun plan => [line (f plan)]) names := by
  obtain ⟨fragments, htext, hspelled⟩ := h
  refine ⟨[⟨0, fragments⟩], fun plan => ?_, by simpa using hspelled⟩
  simp [Template.line, Kotlin.line, htext plan]

lemma append (hf : LinesCompose f names) (hg : LinesCompose g names') :
    LinesCompose (fun plan => f plan ++ g plan) (names ++ names') := by
  obtain ⟨ts, hflines, hfnames⟩ := hf
  obtain ⟨us, hglines, hgnames⟩ := hg
  refine ⟨ts ++ us, fun plan => ?_, fun name => ?_⟩
  · simp only [hflines plan, hglines plan, List.map_append]
  · simp only [List.mem_append, or_and_right, exists_or, hfnames name, hgnames name]

lemma indented (hf : LinesCompose f names) :
    LinesCompose (fun plan => indented (f plan)) names := by
  obtain ⟨templates, hlines, hnames⟩ := hf
  refine ⟨templates.map fun t => ⟨t.depth + 1, t.fragments⟩, fun plan => ?_, fun name => ?_⟩
  · simp [Kotlin.indented, hlines plan, Template.line, Line.deeper, Function.comp_def]
  · simpa using hnames name

section Items

variable {α : Type} {items : List α} {namesOf : α → List String}

/-- Blocks with empty lines between them keep their names. -/
lemma separated {block : NamePlan → α → List Line}
    (h : ∀ a ∈ items, LinesCompose (block · a) (namesOf a)) :
    LinesCompose (fun plan => separated (items.map (block plan))) (items.flatMap namesOf) := by
  induction items with
  | nil => exact fixed []
  | cons a rest ih =>
    have ha : LinesCompose (block · a) (namesOf a) := h a List.mem_cons_self
    have hrest := ih fun b hb => h b (List.mem_cons_of_mem a hb)
    cases rest with
    | nil => simpa [Kotlin.separated] using ha
    | cons b others =>
      refine (((ha.append (fixed [blankLine])).append hrest).of_eq fun plan => ?_).congr ?_
      · simp [Kotlin.separated, List.intercalate_cons_cons]
      · simp

/-- Entries on lines of their own keep their names. -/
lemma commaLines (trailing : Bool) {text : NamePlan → α → String}
    (h : ∀ a ∈ items, Composes (text · a) (namesOf a)) :
    LinesCompose (fun plan => commaLines trailing (items.map (text plan)))
      (items.flatMap namesOf) := by
  induction items with
  | nil => exact fixed []
  | cons a rest ih =>
    have ha : Composes (text · a) (namesOf a) := h a List.mem_cons_self
    have hrest := ih fun b hb => h b (List.mem_cons_of_mem a hb)
    cases rest with
    | nil =>
      cases trailing with
      | true => simpa [Kotlin.commaLines] using line (ha.append_fixed ",")
      | false => simpa [Kotlin.commaLines] using line ha
    | cons b others => exact (line (ha.append_fixed ",")).append hrest

/-- A head, a parenthesised list of entries and a tail keep their names. -/
lemma parameterList (layout : Layout) {head tail : NamePlan → String}
    {headNames tailNames : List String} {text : NamePlan → α → String}
    (hhead : Composes head headNames) (h : ∀ a ∈ items, Composes (text · a) (namesOf a))
    (htail : Composes tail tailNames) :
    LinesCompose (fun plan => parameterList layout (head plan) (items.map (text plan)) (tail plan))
      (headNames ++ items.flatMap namesOf ++ tailNames) := by
  match items, h with
  | [], _ => simpa [Kotlin.parameterList] using line ((hhead.append_fixed "()").append htail)
  | [a], h =>
    have hentry := (hhead.append_fixed "(").append (h a List.mem_cons_self)
    simpa [Kotlin.parameterList] using line ((hentry.append_fixed ")").append htail)
  | a :: b :: rest, h =>
    have hentries := (commaLines layout.trailingCommas h).indented
    have hopen := line (hhead.append_fixed "(")
    exact (hopen.append hentries).append (line (htail.fixed_append ")"))

end Items

end LinesCompose

/-! ## Types -/

/-- No type variable inside the type carries bounds. -/
inductive Unbounded : TypeExpr → Prop
  | primitive (p : Primitive) : Unbounded (.primitive p)
  | named {name : String} {args : List TypeExpr} (hargs : ∀ a ∈ args, Unbounded a) :
      Unbounded (.named name args)
  | parameter (name : String) : Unbounded (.parameter name [])
  | nullable {t : TypeExpr} (h : Unbounded t) : Unbounded (.nullable t)
  | list {t : TypeExpr} (h : Unbounded t) : Unbounded (.list t)
  | set {t : TypeExpr} (h : Unbounded t) : Unbounded (.set t)
  | map {k v : TypeExpr} (hk : Unbounded k) (hv : Unbounded v) : Unbounded (.map k v)
  | function {params : List TypeExpr} {result : TypeExpr}
      (hparams : ∀ p ∈ params, Unbounded p) (hresult : Unbounded result) :
      Unbounded (.function params result)

lemma composes_nullableText {t : TypeExpr} {f : NamePlan → String} {names : List String}
    (h : Composes f names) : Composes (fun plan => nullableText t (f plan)) names := by
  unfold nullableText
  by_cases hnullable : rendersNullable t = true
  · simpa only [if_pos hnullable] using h
  · by_cases hfunction : rendersFunction t = true
    · simpa only [if_neg hnullable, if_pos hfunction] using (h.fixed_append "(").append_fixed ")?"
    · simpa only [if_neg hnullable, if_neg hfunction] using h.append_fixed "?"

/-- A named type that is no wrapper is written by its own name and those of its arguments. -/
lemma composes_named {name : String} {args : List TypeExpr}
    (hwrapper : Wrapper.ofName? name args.length = none)
    (hargs : ∀ a ∈ args, Composes (fun plan => typeText plan a) (writtenNames a)) :
    Composes (fun plan => typeText plan (.named name args)) (writtenNames (.named name args)) := by
  have hnames : writtenNames (.named name args) = name :: args.flatMap writtenNames := by
    simp only [writtenNames, hwrapper, writtenNamesOf_eq_map, List.flatMap]
  rw [hnames]
  cases args with
  | nil =>
    refine (Composes.spelling name).of_eq fun plan => ?_
    simp only [typeText, hwrapper, List.isEmpty_nil, if_true]
  | cons a rest =>
    have hlist := (Composes.intercalate ", " hargs).append_fixed ">"
    refine (((Composes.spelling name).append_fixed "<").append hlist).of_eq fun plan => ?_
    simp only [typeText, hwrapper, typeTexts_eq_map, List.isEmpty_cons, String.append_assoc]
    rfl

/-- The text of a type is made of fixed texts and the names that are collected from the type. -/
lemma Unbounded.composes {t : TypeExpr} (h : Unbounded t) :
    Composes (fun plan => typeText plan t) (writtenNames t) := by
  induction h with
  | primitive p => exact .fixed p.name
  | parameter name => exact .fixed (escape name)
  | nullable _ ih => exact composes_nullableText ih
  | list _ ih => exact (ih.fixed_append "List<").append_fixed ">"
  | set _ ih => exact (ih.fixed_append "Set<").append_fixed ">"
  | map _ _ ihk ihv =>
    exact (((ihk.fixed_append "Map<").append_fixed ", ").append ihv).append_fixed ">"
  | @function params result _ _ ihparams ihresult =>
    have hparams := (Composes.intercalate ", " ihparams).fixed_append "("
    refine ((hparams.append_fixed ") -> ").append ihresult).of_eq (fun plan => ?_) |>.congr ?_
    · rw [typeText, typeTexts_eq_map]
    · simp [writtenNames, writtenNamesOf_eq_map, List.flatMap]
  | @named name args _ ih =>
    cases hwrapper : Wrapper.ofName? name args.length with
    | none => exact composes_named hwrapper ih
    | some wrapper =>
      -- Of a wrapper only the value is written, and only its names are collected.
      cases wrapper with
      | optional =>
        obtain ⟨t, rfl⟩ := List.length_eq_one_iff.1 (length_of_ofName?_optional hwrapper)
        have ht := composes_nullableText (t := t) (ih t List.mem_cons_self)
        refine ht.of_eq (fun plan => ?_) |>.congr ?_
        · simp only [typeText, hwrapper, typeTexts, List.headD_cons]
        · simp only [writtenNames, hwrapper, writtenNamesOf, List.getLastD_cons, List.getLastD_nil,
            implies_true]
      | effect =>
        have hne : args ≠ [] := List.length_pos_iff.1 (pos_of_ofName?_effect hwrapper)
        obtain ⟨others, t, rfl⟩ := (List.eq_nil_or_concat' args).resolve_left hne
        have ht := (ih t (by simp)).fixed_append "suspend () -> "
        refine ht.of_eq (fun plan => ?_) |>.congr ?_
        · simp only [typeText, hwrapper, typeTexts_eq_map, List.map_append, List.map_cons,
            List.map_nil, List.getLastD_concat]
        · simp only [writtenNames, hwrapper, writtenNamesOf_eq_map, List.map_append, List.map_cons,
            List.map_nil, List.getLastD_concat, implies_true]

/-! ## Signatures -/

/-- The names collected from some types. -/
abbrev namesIn (types : List TypeExpr) : List String :=
  types.flatMap writtenNames

section Signature

variable {params : List TypeParameter} {name : String}

/-- The names spelled by the bounds that stand where the type variables are declared. -/
def inlineBoundNames (params : List TypeParameter) : List String :=
  if needsWhere params then [] else namesIn (boundsOf params)

/-- The names spelled by the bounds that stand in a `where` clause. -/
def whereBoundNames (params : List TypeParameter) : List String :=
  if needsWhere params then namesIn (boundsOf params) else []

/-- Each bound stands in exactly one of the two clauses. -/
lemma mem_boundNames :
    name ∈ inlineBoundNames params ∨ name ∈ whereBoundNames params ↔
      name ∈ namesIn (boundsOf params) := by
  unfold inlineBoundNames whereBoundNames
  by_cases h : needsWhere params = true
  · rw [if_pos h, if_pos h]
    simp
  · rw [if_neg h, if_neg h]
    simp

lemma namesIn_boundsOf : namesIn (boundsOf params) = params.flatMap fun p => namesIn p.bounds := by
  rw [namesIn, boundsOf, List.flatMap_assoc]

lemma composes_boundText (name : String) {bound : TypeExpr} (h : Unbounded bound) :
    Composes (fun plan => boundText plan name bound) (writtenNames bound) :=
  h.composes.fixed_append (escape name ++ " : ")

/-- A variable with at most one bound is declared with it. -/
lemma composes_variableText {p : TypeParameter} (hlength : p.bounds.length ≤ 1)
    (h : ∀ bound ∈ p.bounds, Unbounded bound) :
    Composes (fun plan => variableText plan true p) (namesIn p.bounds) := by
  match hbounds : p.bounds with
  | [] =>
    refine (Composes.fixed (escape p.name)).of_eq fun plan => ?_
    simp only [variableText, hbounds]
  | [bound] =>
    have hbound : Unbounded bound := h bound (by simp [hbounds])
    refine ((composes_boundText p.name hbound).of_eq fun plan => ?_).congr (by simp)
    simp only [variableText, hbounds, if_true]
  | _ :: _ :: _ =>
    rw [hbounds] at hlength
    simp at hlength

lemma variableText_false (plan : NamePlan) :
    variableText plan false = fun p => escape p.name := by
  funext p
  unfold variableText
  split <;> rfl

lemma composes_genericClause (h : ∀ bound ∈ boundsOf params, Unbounded bound) :
    Composes (fun plan => genericClause plan params) (inlineBoundNames params) := by
  by_cases hempty : params.isEmpty = true
  · obtain rfl := List.isEmpty_iff.1 hempty
    exact .fixed ""
  · have hvariables : Composes (fun plan => ", ".intercalate
        (params.map (variableText plan (!needsWhere params)))) (inlineBoundNames params) := by
      unfold inlineBoundNames
      by_cases hwhere : needsWhere params = true
      · rw [if_pos hwhere]
        refine (Composes.fixed (", ".intercalate (params.map fun p => escape p.name))).of_eq ?_
        simp [hwhere, variableText_false]
      · rw [if_neg hwhere, namesIn_boundsOf]
        simp only [hwhere, Bool.not_false]
        refine Composes.intercalate ", " fun p hp => composes_variableText ?_ fun bound hbound => ?_
        · unfold needsWhere at hwhere
          rw [List.any_eq_true] at hwhere
          push Not at hwhere
          simpa using hwhere p hp
        · exact h bound (List.mem_flatMap.2 ⟨p, hp, hbound⟩)
    refine ((hvariables.fixed_append "<").append_fixed ">").of_eq fun plan => ?_
    rw [genericClause, if_neg hempty]

lemma composes_whereClause (h : ∀ bound ∈ boundsOf params, Unbounded bound) :
    Composes (fun plan => whereClause plan params) (whereBoundNames params) := by
  unfold whereClause whereBoundNames
  by_cases hwhere : needsWhere params = true
  · simp only [if_pos hwhere]
    -- each bound with the variable it belongs to
    let pairs := params.flatMap fun p => p.bounds.map (p.name, ·)
    have hpairs : ∀ pair ∈ pairs, Composes (boundText · pair.1 pair.2) (writtenNames pair.2) := by
      intro pair hpair
      simp only [pairs, List.mem_flatMap, List.mem_map] at hpair
      obtain ⟨p, hp, bound, hbound, rfl⟩ := hpair
      exact composes_boundText p.name (h bound (List.mem_flatMap.2 ⟨p, hp, hbound⟩))
    refine (((Composes.intercalate ", " hpairs).fixed_append " where ").of_eq ?_).congr ?_
    · simp [pairs, List.map_flatMap, Function.comp_def]
    · simp [pairs, namesIn, boundsOf, List.flatMap_assoc, List.flatMap_map]
  · simp only [if_neg hwhere]
    exact .fixed ""

lemma composes_parameterText {p : Parameter} (h : Unbounded p.type) :
    Composes (fun plan => parameterText plan p) (writtenNames p.type) :=
  (h.composes.fixed_append (escape p.name ++ ": ")).append_fixed (defaultText p.default?)

lemma composes_propertyText {p : Property} (h : Unbounded p.type) :
    Composes (fun plan => propertyText plan p) (writtenNames p.type) :=
  (h.composes.fixed_append _).append_fixed (defaultText p.default?)

/-- Of an effect only the value is written. -/
lemma Unbounded.of_effectValue? {t value : TypeExpr} (h : Unbounded t)
    (hvalue : t.effectValue? = some value) :
    Unbounded value ∧ writtenNames value = writtenNames t := by
  unfold TypeExpr.effectValue? at hvalue
  split at hvalue
  · rename_i hwrapper
    cases h with
    | @named name args hargs =>
      have hlast : args.getLast? = some value := hvalue
      have hofName : Wrapper.ofName? name args.length = some .effect := hwrapper
      refine ⟨hargs value (List.mem_of_getLast? hlast), ?_⟩
      simp only [writtenNames, hofName, writtenNamesOf_eq_map, List.getLastD_eq_getLast?,
        List.getLast?_map, hlast, Option.map_some, Option.getD_some]
    | _ => simp [TypeExpr.wrapper?] at hwrapper
  · cases hvalue

lemma writtenNames_of_isUnit {t : TypeExpr} (h : t.isUnit = true) : writtenNames t = [] := by
  unfold TypeExpr.isUnit at h
  split at h
  · rfl
  · cases h

/-- What a signature says of the return type spells the names of the whole type. -/
lemma composes_result {t : TypeExpr} (h : Unbounded t) :
    Composes (fun plan => match t.eraseReturn.value? with
      | some value => ": " ++ typeText plan value
      | none => "") (writtenNames t) := by
  have hvalue : ∀ value, Unbounded value → writtenNames value = writtenNames t →
      Composes (fun plan => match if value.isUnit then none else some value with
        | some value => ": " ++ typeText plan value
        | none => "") (writtenNames t) := by
    intro value hunbounded hnames
    rw [← hnames]
    by_cases hunit : value.isUnit = true
    · rw [writtenNames_of_isUnit hunit]
      simpa only [if_pos hunit] using .fixed ""
    · simpa only [if_neg hunit] using hunbounded.composes.fixed_append ": "
  unfold TypeExpr.eraseReturn
  cases heffect : t.effectValue? with
  | none => exact hvalue t h rfl
  | some value =>
    have ⟨hunbounded, hnames⟩ := h.of_effectValue? heffect
    exact hvalue value hunbounded hnames

/-- The head of a method spells the names of all types in its signature. -/
lemma composes_methodHead {m : Method} (isOverride : Bool)
    (h : ∀ t ∈ m.signatureTypes, Unbounded t) :
    Composes (fun plan => methodHead plan isOverride m) (namesIn m.signatureTypes) := by
  have hbounds : ∀ bound ∈ boundsOf m.typeParams, Unbounded bound := fun bound hbound =>
    h bound (by simp [Method.signatureTypes, hbound])
  have hparams : ∀ p ∈ m.params, Composes (parameterText · p) (writtenNames p.type) := by
    intro p hp
    have hmem : p.type ∈ m.params.map Parameter.type := List.mem_map_of_mem hp
    exact composes_parameterText (h p.type (by simp [Method.signatureTypes, hmem]))
  have hresult : Unbounded m.result := h m.result (by simp [Method.signatureTypes])
  have hgeneric : Composes (fun plan =>
      if m.typeParams.isEmpty then "" else genericClause plan m.typeParams ++ " ")
      (inlineBoundNames m.typeParams) := by
    by_cases hempty : m.typeParams.isEmpty = true
    · have hnone : m.typeParams = [] := List.isEmpty_iff.1 hempty
      simp only [hnone]
      exact .fixed ""
    · simpa only [if_neg hempty] using (composes_genericClause hbounds).append_fixed " "
  let modifiers := (if isOverride then "override " else visibilityModifier m.visibility) ++
    (if suspends m then "suspend " else "") ++ "fun "
  have hopen := ((hgeneric.fixed_append modifiers).append_fixed (escape m.name)).append_fixed "("
  have hclose := (hopen.append (Composes.intercalate ", " hparams)).append_fixed ")"
  refine ((hclose.append (composes_result hresult)).append
    (composes_whereClause hbounds)).congr fun name => ?_
  have hbound := @mem_boundNames m.typeParams name
  simp only [Method.signatureTypes, List.mem_append, List.flatMap_append, List.flatMap_map,
    List.flatMap_singleton, ← hbound]
  tauto

end Signature

end Blueprint.Kotlin
