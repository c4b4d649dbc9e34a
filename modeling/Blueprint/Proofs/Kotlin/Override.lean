import Blueprint.Kotlin.DeclarationText
import Blueprint.Proofs.DottedName
import Blueprint.Proofs.Kotlin.Layout
import Blueprint.Proofs.Kotlin.TypeText
import Blueprint.Proofs.TypeExpr.Substitution

/-!
# Overridden methods

An adapter overrides the methods of the port it implements, with the type variables of the port
bound to the arguments that the adapter gives.  Two questions decide whether Kotlin takes such a
method for an override.

The first is about scopes.  A method may declare variables of its own, and one of them may have the
name of a variable of the port; then it is the method's variable that its signature means.
`Method.scopedOverride` respects this and replaces the port's variables in the whole signature.
`Method.override` replaces them by name in the parameters and the result only.
`overrides_eq_scoped_iff` says when the two come to the same.

The second is about `suspend`.  The modifier shows in the head of a method when its result is
wrapped in an effect, and the result of an override is judged after its variables are replaced.
`suspend_mem_modifiers_iff` says when a port and an adapter disagree.
-/

namespace Blueprint

open TypeExpr (Bindings)

/-! ## Scopes -/

/-- The bindings without those of the listed names. -/
def TypeExpr.Bindings.hiding (bindings : Bindings) (names : List String) : Bindings :=
  fun name => if name ∈ names then none else bindings name

namespace Method

/-- The bindings as the signature of a method sees them: its own variables are not bound. -/
def free (m : Method) (bindings : Bindings) : Bindings :=
  bindings.hiding (variableNames m.typeParams)

/-- A port's method as an implementation has to override it: the variables of the port are replaced
in the whole signature, and those of the method stay. -/
def scopedOverride (bindings : Bindings) (m : Method) : Method :=
  { m with
    typeParams := m.typeParams.map fun p =>
      { name := p.name, bounds := p.bounds.map (TypeExpr.substitute (m.free bindings)) }
    params := m.params.map fun p =>
      { name := p.name, type := p.type.substitute (m.free bindings), default? := none }
    result := m.result.substitute (m.free bindings)
    annotations := []
    doc? := none
    isAbstract := false }

/-- The types in the signature of a method that are not bounds. -/
def valueTypes (m : Method) : List TypeExpr :=
  m.params.map Parameter.type ++ [m.result]

/-- What keeps a substitution by name from going wrong: where the parameters and the result use a
variable of the method it has not the name of one that is bound, and the bounds of the method's
variables use no variable that is bound. -/
structure ScopesApart (bindings : Bindings) (m : Method) : Prop where
  values : ∀ t ∈ m.valueTypes, ∀ v ∈ t.reached (m.free bindings),
    v ∈ variableNames m.typeParams → bindings v = none
  bounds : ∀ t ∈ boundsOf m.typeParams, ∀ v ∈ t.reached (m.free bindings), m.free bindings v = none

instance (bindings : Bindings) (m : Method) : Decidable (m.ScopesApart bindings) :=
  decidable_of_iff
    ((∀ t ∈ m.valueTypes, ∀ v ∈ t.reached (m.free bindings),
        v ∈ variableNames m.typeParams → bindings v = none) ∧
      ∀ t ∈ boundsOf m.typeParams, ∀ v ∈ t.reached (m.free bindings), m.free bindings v = none)
    ⟨fun h => ⟨h.1, h.2⟩, fun h => ⟨h.values, h.bounds⟩⟩

variable {bindings : Bindings} {m : Method} {v : String} {t : TypeExpr}

lemma free_of_mem (h : v ∈ variableNames m.typeParams) : m.free bindings v = none :=
  if_pos h

lemma free_of_not_mem (h : v ∉ variableNames m.typeParams) : m.free bindings v = bindings v :=
  if_neg h

lemma closed_free (h : bindings.Closed) : (m.free bindings).Closed := by
  intro name value hvalue
  by_cases hname : name ∈ variableNames m.typeParams
  · rw [free_of_mem hname] at hvalue
    cases hvalue
  · rw [free_of_not_mem hname] at hvalue
    exact h name value hvalue

/-- Replacing by name is right exactly where no variable of the method is taken for a bound one. -/
lemma substitute_eq_free_iff (h : bindings.Closed) :
    t.substitute bindings = t.substitute (m.free bindings) ↔
      ∀ v ∈ t.reached (m.free bindings), v ∈ variableNames m.typeParams → bindings v = none := by
  constructor
  · intro heq v hv hown
    have hkept : v ∈ (t.substitute (m.free bindings)).typeVariables :=
      (TypeExpr.mem_typeVariables_substitute (closed_free h)).2 ⟨hv, free_of_mem hown⟩
    rw [← heq] at hkept
    exact ((TypeExpr.mem_typeVariables_substitute h).1 hkept).2
  · intro hnone
    refine (TypeExpr.substitute_congr fun v hv => ?_).symm
    by_cases hown : v ∈ variableNames m.typeParams
    · rw [free_of_mem hown, hnone v hv hown]
    · exact free_of_not_mem hown

/-- A bound is right as it stands exactly if it uses no variable that is to be replaced. -/
lemma substitute_free_eq_self_iff (h : bindings.Closed) (ht : t.NullableOnce) :
    t.substitute (m.free bindings) = t ↔
      ∀ v ∈ t.reached (m.free bindings), m.free bindings v = none := by
  constructor
  · intro heq v hv
    have hmem := TypeExpr.mem_typeVariables_of_mem_reached hv
    rw [← heq] at hmem
    exact ((TypeExpr.mem_typeVariables_substitute (closed_free h)).1 hmem).2
  · exact TypeExpr.substitute_eq_self ht

lemma map_eq_self_iff {α : Type} {f : α → α} {xs : List α} :
    xs.map f = xs ↔ ∀ x ∈ xs, f x = x := by
  simpa using List.map_inj_left (l := xs) (f := f) (g := id)

/-- A method is overridden as its scopes ask exactly if these are apart. -/
lemma override_eq_scopedOverride_iff (h : bindings.Closed)
    (hbounds : ∀ t ∈ boundsOf m.typeParams, t.NullableOnce) :
    m.override bindings = m.scopedOverride bindings ↔ m.ScopesApart bindings := by
  have hparams : (m.override bindings).params = (m.scopedOverride bindings).params ↔
      ∀ t ∈ m.params.map Parameter.type,
        t.substitute bindings = t.substitute (m.free bindings) := by
    simp [override, scopedOverride]
  have htypeParams : (m.override bindings).typeParams = (m.scopedOverride bindings).typeParams ↔
      ∀ t ∈ boundsOf m.typeParams, t.substitute (m.free bindings) = t := by
    have hbound : ∀ p : TypeParameter, (⟨p.name, p.bounds.map (TypeExpr.substitute
        (m.free bindings))⟩ : TypeParameter) = p ↔
          ∀ t ∈ p.bounds, t.substitute (m.free bindings) = t := by
      rintro ⟨name, bounds⟩
      simp [map_eq_self_iff]
    rw [eq_comm]
    simp only [override, scopedOverride, map_eq_self_iff, hbound, boundsOf, List.mem_flatMap]
    grind
  have hmethod : m.override bindings = m.scopedOverride bindings ↔
      (m.override bindings).typeParams = (m.scopedOverride bindings).typeParams ∧
        (m.override bindings).params = (m.scopedOverride bindings).params ∧
        (m.override bindings).result = (m.scopedOverride bindings).result := by
    simp [override, scopedOverride]
  rw [hmethod, htypeParams, hparams]
  constructor
  · rintro ⟨hbound, hparam, hresult⟩
    refine ⟨fun t ht => ?_, fun t ht => ?_⟩
    · rw [← substitute_eq_free_iff h]
      rcases List.mem_append.1 ht with ht | ht
      · exact hparam t ht
      · rw [List.mem_singleton.1 ht]
        exact hresult
    · rw [← substitute_free_eq_self_iff h (hbounds t ht)]
      exact hbound t ht
  · intro hapart
    refine ⟨fun t ht => ?_, fun t ht => ?_, ?_⟩
    · exact (substitute_free_eq_self_iff h (hbounds t ht)).2 (hapart.bounds t ht)
    · exact (substitute_eq_free_iff h).2 (hapart.values t (List.mem_append_left _ ht))
    · exact (substitute_eq_free_iff h).2 (hapart.values m.result (by simp [valueTypes]))

/-- The variables that the signature of a method mentions. -/
def typeVariables (m : Method) : List String :=
  m.signatureTypes.flatMap TypeExpr.typeVariables

lemma signatureTypes_eq : m.signatureTypes = boundsOf m.typeParams ++ m.valueTypes :=
  List.append_assoc ..

lemma signatureTypes_override :
    (m.override bindings).signatureTypes =
      boundsOf m.typeParams ++ m.valueTypes.map (TypeExpr.substitute bindings) := by
  simp [signatureTypes, override, valueTypes]

lemma signatureTypes_scopedOverride :
    (m.scopedOverride bindings).signatureTypes =
      m.signatureTypes.map (TypeExpr.substitute (m.free bindings)) := by
  simp [signatureTypes, scopedOverride, boundsOf, List.flatMap_map, List.map_flatMap]

lemma mem_flatMap_typeVariables_substitute {ts : List TypeExpr} (h : bindings.Closed) :
    v ∈ (ts.map (TypeExpr.substitute bindings)).flatMap TypeExpr.typeVariables ↔
      (∃ t ∈ ts, v ∈ t.reached bindings) ∧ bindings v = none := by
  simp only [List.flatMap_map, List.mem_flatMap, TypeExpr.mem_typeVariables_substitute h]
  grind

/-- An override keeps the bounds, and of the other types the variables that are not bound. -/
lemma mem_typeVariables_override (h : bindings.Closed) :
    v ∈ (m.override bindings).typeVariables ↔
      (∃ t ∈ boundsOf m.typeParams, v ∈ t.typeVariables) ∨
        (∃ t ∈ m.valueTypes, v ∈ t.reached bindings) ∧ bindings v = none := by
  rw [typeVariables, signatureTypes_override, List.flatMap_append, List.mem_append,
    mem_flatMap_typeVariables_substitute h, List.mem_flatMap]

/-- An override that respects scopes keeps the variables that are not bound, wherever they are. -/
lemma mem_typeVariables_scopedOverride (h : bindings.Closed) :
    v ∈ (m.scopedOverride bindings).typeVariables ↔
      (∃ t ∈ m.signatureTypes, v ∈ t.reached (m.free bindings)) ∧ m.free bindings v = none := by
  rw [typeVariables, signatureTypes_scopedOverride,
    mem_flatMap_typeVariables_substitute (closed_free h)]

lemma typeVariables_override_subset (h : bindings.Closed) :
    (m.override bindings).typeVariables ⊆ m.typeVariables := by
  intro v hv
  rw [typeVariables, List.mem_flatMap, signatureTypes_eq]
  rcases (mem_typeVariables_override h).1 hv with ⟨t, ht, hmem⟩ | ⟨⟨t, ht, hmem⟩, -⟩
  · exact ⟨t, List.mem_append_left _ ht, hmem⟩
  · exact ⟨t, List.mem_append_right _ ht, TypeExpr.mem_typeVariables_of_mem_reached hmem⟩

lemma typeVariables_scopedOverride_subset (h : bindings.Closed) :
    (m.scopedOverride bindings).typeVariables ⊆ m.typeVariables := by
  intro v hv
  obtain ⟨⟨t, ht, hmem⟩, -⟩ := (mem_typeVariables_scopedOverride h).1 hv
  exact List.mem_flatMap.2 ⟨t, ht, TypeExpr.mem_typeVariables_of_mem_reached hmem⟩

end Method

/-! ## The bindings of an implemented type -/

namespace TypeExpr.Bindings

variable {pairs : List (String × TypeExpr)} {name : String} {t : TypeExpr}

lemma ofPairs_eq_none_iff : ofPairs pairs name = none ↔ name ∉ pairs.map Prod.fst := by
  simp [ofPairs]
  grind

lemma mem_of_ofPairs (h : ofPairs pairs name = some t) : (name, t) ∈ pairs := by
  obtain ⟨pair, hfind, rfl⟩ := Option.map_eq_some_iff.1 h
  have hname : pair.1 = name := by simpa using List.find?_some hfind
  exact hname ▸ List.mem_reverse.1 (List.mem_of_find?_eq_some hfind)

/-- Where no name comes twice, each is bound to its own type. -/
lemma ofPairs_of_mem (hnodup : (pairs.map Prod.fst).Nodup) (h : (name, t) ∈ pairs) :
    ofPairs pairs name = some t := by
  cases hvalue : ofPairs pairs name with
  | none => exact absurd (List.mem_map_of_mem h) (ofPairs_eq_none_iff.1 hvalue)
  | some value =>
    have hpair := List.inj_on_of_nodup_map hnodup (mem_of_ofPairs hvalue) h rfl
    rw [(Prod.mk.inj hpair).2]

end TypeExpr.Bindings

namespace Port

variable {p : Port} {name v : String} {args : List TypeExpr}

lemma bindings_closed (hclosed : ∀ t ∈ args, ¬ t.MentionsVariable) :
    (p.bindings (.named name args)).Closed := fun _ _ hvalue =>
  hclosed _ (List.of_mem_zip (Bindings.mem_of_ofPairs hvalue)).2

lemma bindings_eq_none_iff (hlen : args.length = p.typeParams.length) :
    p.bindings (.named name args) v = none ↔ v ∉ variableNames p.typeParams := by
  have hnames : ((variableNames p.typeParams).zip args).map Prod.fst = variableNames p.typeParams :=
    List.map_fst_zip (by simp [variableNames, hlen])
  rw [← hnames]
  exact Bindings.ofPairs_eq_none_iff

lemma bindings_of_mem_zip (hlen : args.length = p.typeParams.length)
    (hnodup : (variableNames p.typeParams).Nodup) {t : TypeExpr}
    (h : (v, t) ∈ (variableNames p.typeParams).zip args) :
    p.bindings (.named name args) v = some t := by
  refine Bindings.ofPairs_of_mem ?_ h
  rwa [List.map_fst_zip (by simp [hlen])]

end Port

/-- An implementation that binds every variable of a port to a type without variables overrides the
methods of the port as their scopes ask, exactly if the scopes are apart in each of them.  Where
they are not, a variable of the port that the method does not hide stays in the override exactly if
some bound of the method's own variables mentions it. -/
theorem overrides_eq_scoped_iff {p : Port} {name : String} {args : List TypeExpr}
    (hlen : args.length = p.typeParams.length) (hclosed : ∀ t ∈ args, ¬ t.MentionsVariable)
    (hbounds : ∀ m ∈ p.methods, ∀ t ∈ boundsOf m.typeParams, t.NullableOnce) :
    ((variableNames p.typeParams).Nodup → ∀ v t, (v, t) ∈ (variableNames p.typeParams).zip args →
      p.bindings (.named name args) v = some t) ∧
    (p.overrides (.named name args) =
        p.methods.map (Method.scopedOverride (p.bindings (.named name args))) ↔
      ∀ m ∈ p.methods, m.ScopesApart (p.bindings (.named name args))) ∧
    ∀ m ∈ p.methods,
      (m.scopedOverride (p.bindings (.named name args))).typeVariables ⊆ m.typeVariables ∧
      (m.override (p.bindings (.named name args))).typeVariables ⊆ m.typeVariables ∧
      ∀ v ∈ variableNames p.typeParams, v ∉ variableNames m.typeParams →
        v ∉ (m.scopedOverride (p.bindings (.named name args))).typeVariables ∧
        (v ∈ (m.override (p.bindings (.named name args))).typeVariables ↔
          ∃ t ∈ boundsOf m.typeParams, v ∈ t.typeVariables) := by
  have h : (p.bindings (.named name args)).Closed := Port.bindings_closed hclosed
  refine ⟨fun hnodup v t => Port.bindings_of_mem_zip hlen hnodup, ?_, fun m _ => ?_⟩
  · rw [Port.overrides, List.map_inj_left]
    exact forall₂_congr fun m hm => Method.override_eq_scopedOverride_iff h (hbounds m hm)
  · refine ⟨Method.typeVariables_scopedOverride_subset h, Method.typeVariables_override_subset h,
      fun v hport hown => ?_⟩
    have hbound : p.bindings (.named name args) v ≠ none := fun hnone =>
      (Port.bindings_eq_none_iff hlen).1 hnone hport
    constructor
    · rw [Method.mem_typeVariables_scopedOverride h, Method.free_of_not_mem hown]
      exact fun hv => hbound hv.2
    · rw [Method.mem_typeVariables_override h]
      exact or_iff_left fun hv => hbound hv.2

/-- A method with a variable of its own that bounds itself, beside the variable of its port. -/
theorem overrides_eq_scoped_sorting :
    let order : TypeExpr := .named "Comparable" [.parameter "S" []]
    let p : Port :=
      { name := "Repository", typeParams := [⟨"T", []⟩]
        methods := [{ name := "sorted", typeParams := [⟨"S", [order]⟩]
                      params := [⟨"by", .function [.parameter "T" []] (.parameter "S" []), none⟩]
                      result := .list (.parameter "T" []) }] }
    let args : List TypeExpr := [.named "User" []]
    args.length = p.typeParams.length ∧ (∀ t ∈ args, ¬ t.MentionsVariable) ∧
      order.NullableOnce ∧
      p.overrides (.named "Repository" args) =
        p.methods.map (Method.scopedOverride (p.bindings (.named "Repository" args))) := by
  intro order p args
  have hlen : args.length = p.typeParams.length := rfl
  have hclosed : ∀ t ∈ args, ¬ t.MentionsVariable := by decide +kernel
  have hparameter : (TypeExpr.parameter "S" []).NullableOnce :=
    TypeExpr.nullableOnce_iff.2 (by simp [TypeExpr.children])
  have horder : order.NullableOnce :=
    TypeExpr.nullableOnce_iff.2 ⟨by simp [order], by simpa [order, TypeExpr.children]⟩
  have hbounds : ∀ m ∈ p.methods, ∀ t ∈ boundsOf m.typeParams, t.NullableOnce := by
    simpa [p, boundsOf] using horder
  refine ⟨hlen, hclosed, horder, ?_⟩
  refine (overrides_eq_scoped_iff hlen hclosed hbounds).2.1.2 ?_
  decide +kernel

/-- Two methods whose scopes are not apart: the bound of the one keeps the variable of the port,
which an implementation does not know, and the other has its own variable replaced. -/
theorem overrides_ignore_scopes :
    let pick : Method :=
      { name := "pick", typeParams := [⟨"S", [.parameter "T" []]⟩]
        params := [⟨"from", .list (.parameter "S" []), none⟩], result := .parameter "T" [] }
    let cast : Method :=
      { name := "cast", typeParams := [⟨"T", []⟩]
        params := [⟨"value", .parameter "T" [], none⟩], result := .parameter "T" [] }
    let p : Port := { name := "Repository", typeParams := [⟨"T", []⟩], methods := [pick, cast] }
    let implemented : TypeExpr := .named "Repository" [.named "User" []]
    (p.overrides implemented).map (Kotlin.methodHead {} true) =
        ["override fun <S : T> pick(from: List<S>): User",
          "override fun <T> cast(value: User): User"] ∧
      (p.methods.map (Method.scopedOverride (p.bindings implemented))).map
          (Kotlin.methodHead {} true) =
        ["override fun <S : User> pick(from: List<S>): User",
          "override fun <T> cast(value: T): T"] := by
  decide +kernel

/-! ## Modifiers -/

namespace TypeExpr

variable {bindings : Bindings} {t : TypeExpr} {w : Wrapper}

lemma isSuspend_eraseReturn : t.eraseReturn.isSuspend = true ↔ t.wrapper? = some .effect := by
  have hvalue : t.effectValue?.isSome = true ↔ t.wrapper? = some .effect := by
    by_cases h : t.wrapper? = some .effect
    · cases t with
      | named name args =>
        have hne : args ≠ [] := List.length_pos_iff.1 (Kotlin.pos_of_ofName?_effect h)
        simp [effectValue?, h, TypeExpr.args, hne]
      | _ => cases h
    · simp [effectValue?, h]
  rw [← hvalue, eraseReturn]
  cases t.effectValue? <;> simp

lemma wrapper?_makeNullable : t.makeNullable.wrapper? = none := by
  have h := isNullable_makeNullable t
  revert h
  cases t.makeNullable <;> simp [isNullable, wrapper?]

/-- A substitution makes no wrapper but by putting one in for the whole type. -/
lemma wrapper?_substitute :
    (t.substitute bindings).wrapper? = some w ↔
      t.wrapper? = some w ∨
        ∃ v bounds s, t = .parameter v bounds ∧ bindings v = some s ∧ s.wrapper? = some w := by
  cases t with
  | named name args => simp [substitute, wrapper?, substituteAll_eq_map]
  | parameter name bounds =>
    cases hvalue : bindings name <;> simp [substitute, wrapper?, hvalue, ← and_assoc]
  | nullable t =>
    rw [substitute, wrapper?_makeNullable]
    simp [wrapper?]
  | _ => simp [substitute, wrapper?]

end TypeExpr

namespace Kotlin

/-- The modifiers in the head of a function: the words in front of its keyword. -/
def modifiers (text : String) : List String :=
  ((Text.splitOn ' ' text.toList).map String.ofList).takeWhile (· ≠ "fun")

/-- The line with which a method is declared. -/
def signatureLine (plan : NamePlan) (mode : MemberMode) (m : Method) : Line :=
  line (methodHead plan (mode = .overriding) m ++
    if mode = .inInterface ∧ m.isAbstract then "" else " \x7b")

section Modifiers

variable {plan : NamePlan} {mode : MemberMode} {m : Method} {methods : List Method} {word : String}

lemma words_append (hword : ' ' ∉ word.toList) (text : String) :
    (Text.splitOn ' ' (word ++ " " ++ text).toList).map String.ofList =
      word :: (Text.splitOn ' ' text.toList).map String.ofList := by
  have hcut : (word ++ " " ++ text).toList = word.toList ++ ' ' :: text.toList := by simp
  have hone : Text.splitOn ' ' word.toList = [word.toList] := by
    rw [Text.splitOn_eq_list_splitOn]
    exact List.splitOn_eq_singleton hword
  rw [hcut, Text.splitOn_append_cons, hone]
  simp

lemma modifiers_append (hword : ' ' ∉ word.toList) (hfun : word ≠ "fun") (text : String) :
    modifiers (word ++ " " ++ text) = word :: modifiers text := by
  rw [modifiers, words_append hword, List.takeWhile_cons_of_pos (by simpa using hfun), modifiers]

lemma modifiers_fun (text : String) : modifiers ("fun " ++ text) = [] := by
  have hword : "fun " = "fun" ++ " " := by decide
  rw [hword, modifiers, words_append (by decide), List.takeWhile_cons_of_neg (by decide)]

lemma modifiers_join {words : List String} (hwords : ∀ w ∈ words, ' ' ∉ w.toList ∧ w ≠ "fun")
    (text : String) :
    modifiers (String.join (words.map (· ++ " ")) ++ ("fun " ++ text)) = words := by
  induction words with
  | nil => exact modifiers_fun text
  | cons w words ih =>
    obtain ⟨⟨hspace, hfun⟩, hrest⟩ := List.forall_mem_cons.1 hwords
    rw [List.map_cons, String.join_cons, String.append_assoc, modifiers_append hspace hfun,
      ih hrest]

/-- The modifiers that a method takes. -/
def headModifiers (isOverride : Bool) (m : Method) : List String :=
  (if isOverride then ["override"] else
    match m.visibility with
    | .everyone => []
    | .subclasses => ["protected"]
    | .owner => ["private"]
    | .sameModule => ["internal"]) ++
    if suspends m then ["suspend"] else []

lemma join_headModifiers (isOverride : Bool) :
    String.join ((headModifiers isOverride m).map (· ++ " ")) =
      (if isOverride then "override " else visibilityModifier m.visibility) ++
        if suspends m then "suspend " else "" := by
  unfold headModifiers
  cases isOverride <;> cases m.visibility <;> cases suspends m <;> decide

/-- Whatever stands behind the keyword, the words in front of it are those modifiers. -/
lemma modifiers_methodHead (isOverride : Bool) (tail : String) :
    modifiers (methodHead plan isOverride m ++ tail) = headModifiers isOverride m := by
  have hwords : ∀ w ∈ headModifiers isOverride m, ' ' ∉ w.toList ∧ w ≠ "fun" := by
    unfold headModifiers
    cases isOverride <;> cases m.visibility <;> cases suspends m <;> decide
  simp only [methodHead, String.append_assoc]
  rw [← String.append_assoc, ← join_headModifiers, modifiers_join hwords]

lemma suspend_mem_headModifiers (isOverride : Bool) :
    "suspend" ∈ headModifiers isOverride m ↔ suspends m = true := by
  unfold headModifiers
  cases isOverride <;> cases m.visibility <;> cases suspends m <;> decide

lemma suspend_mem_modifiers_signatureLine :
    "suspend" ∈ modifiers (signatureLine plan mode m).text ↔ suspends m = true := by
  show "suspend" ∈ modifiers (methodHead plan _ m ++ _) ↔ _
  rw [modifiers_methodHead, suspend_mem_headModifiers]

/-- An override suspends where the method does, and where its result becomes an effect. -/
lemma suspends_override {bindings : Bindings} :
    suspends (m.override bindings) = true ↔ suspends m = true ∨
      ∃ v bounds t, m.result = .parameter v bounds ∧ bindings v = some t ∧
        t.wrapper? = some .effect := by
  simp only [suspends, Method.override, Bool.or_eq_true, TypeExpr.isSuspend_eraseReturn,
    TypeExpr.wrapper?_substitute, or_right_comm]

lemma signatureLine_mem_methodLines : signatureLine plan mode m ∈ methodLines plan mode m := by
  unfold signatureLine methodLines
  split <;> simp

lemma mem_separated {l : Line} {block : List Line} {blocks : List (List Line)} (hl : l ∈ block)
    (hblock : block ∈ blocks) : l ∈ separated blocks := by
  obtain ⟨first, rest, rfl⟩ := List.exists_cons_of_ne_nil (List.ne_nil_of_mem hblock)
  rw [separated_cons, List.mem_append]
  rcases List.mem_cons.1 hblock with rfl | hrest
  · exact Or.inl hl
  · exact Or.inr (List.mem_flatMap.2 ⟨block, hrest, List.mem_cons_of_mem _ hl⟩)

lemma signatureLine_mem_memberLines (hm : m ∈ methods) :
    (signatureLine plan mode m).deeper ∈ memberLines plan mode methods :=
  List.mem_map_of_mem (mem_separated signatureLine_mem_methodLines (List.mem_map_of_mem hm))

lemma signatureLine_mem_portLines {p : Port} (hm : m ∈ p.methods) :
    (signatureLine plan .inInterface m).deeper ∈ portLines plan p := by
  have hne : p.methods.isEmpty = false := List.isEmpty_eq_false_iff_exists_mem.2 ⟨m, hm⟩
  simp [portLines, hne, signatureLine_mem_memberLines hm]

lemma signatureLine_mem_adapterLines {layout : Layout} {a : Adapter} {port? : Option Port}
    (hm : m ∈ a.overrides port?) :
    (signatureLine plan .overriding m).deeper ∈ adapterLines plan layout a port? := by
  have hne : (a.overrides port?).isEmpty = false := List.isEmpty_eq_false_iff_exists_mem.2 ⟨m, hm⟩
  simp [adapterLines, hne, signatureLine_mem_memberLines hm]

end Modifiers

/-- A port and an adapter declare each method of the port on a line of its own, and the two lines
agree on `suspend` but for one case: a method whose result is a variable that the adapter binds to
an effect suspends in the adapter only, unless it suspends by itself. -/
theorem suspend_mem_modifiers_iff (plan : NamePlan) (layout : Layout) (a : Adapter) {p : Port}
    {m : Method} (hm : m ∈ p.methods) :
    (signatureLine plan .inInterface m).deeper ∈ portLines plan p ∧
    (signatureLine plan .overriding (m.override (p.bindings a.implements))).deeper ∈
      adapterLines plan layout a (some p) ∧
    ("suspend" ∈ modifiers
        (signatureLine plan .overriding (m.override (p.bindings a.implements))).text ↔
      "suspend" ∈ modifiers (signatureLine plan .inInterface m).text ∨
        ∃ v bounds t, m.result = .parameter v bounds ∧ p.bindings a.implements v = some t ∧
          t.wrapper? = some .effect) := by
  have hoverride : m.override (p.bindings a.implements) ∈ a.overrides (some p) :=
    List.mem_map_of_mem hm
  refine ⟨signatureLine_mem_portLines hm, signatureLine_mem_adapterLines hoverride, ?_⟩
  rw [suspend_mem_modifiers_signatureLine, suspend_mem_modifiers_signatureLine, suspends_override]

/-- An effect inside the result makes no difference: the method that returns a list of the port's
variable suspends neither in the port nor in the adapter. -/
theorem suspend_mem_modifiers_list :
    let m : Method := { name := "all", result := .list (.parameter "T" []) }
    let p : Port := { name := "Source", typeParams := [⟨"T", []⟩], methods := [m] }
    let a : Adapter :=
      { name := "Users", implements := .named "Source" [.named "IO" [.named "User" []]] }
    m ∈ p.methods ∧
      "suspend" ∉ modifiers (signatureLine {} .inInterface m).text ∧
      "suspend" ∉ modifiers
        (signatureLine {} .overriding (m.override (p.bindings a.implements))).text := by
  intro m p a
  have hm : m ∈ p.methods := List.mem_singleton.2 rfl
  have hdeclared : "suspend" ∉ modifiers (signatureLine {} .inInterface m).text := by
    decide +kernel
  refine ⟨hm, hdeclared, fun hoverride => ?_⟩
  obtain ⟨-, -, hiff⟩ := suspend_mem_modifiers_iff {} {} a hm
  rcases hiff.1 hoverride with hsuspend | ⟨v, bounds, t, hresult, -⟩
  · exact hdeclared hsuspend
  · cases hresult

/-- The case in which they differ: where the port only returns what its variable stands for, the
adapter suspends. -/
theorem suspend_of_bound_result :
    let p : Port :=
      { name := "Source", typeParams := [⟨"T", []⟩]
        methods := [{ name := "next", result := .parameter "T" [] }] }
    let a : Adapter :=
      { name := "Users", implements := .named "Source" [.named "IO" [.named "User" []]] }
    (portLines {} p).map Line.text =
        ["interface Source<T> \x7b", "fun next(): T", "\x7d"] ∧
      (adapterLines {} {} a (some p)).map Line.text =
        ["class Users : Source<suspend () -> User> \x7b", "override suspend fun next(): User \x7b",
          "TODO(\"Not yet migrated\")", "\x7d", "\x7d"] := by
  decide +kernel

end Kotlin

end Blueprint
