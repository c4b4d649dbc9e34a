import Blueprint.Proofs.Document.Scope
import Blueprint.TypeExpr.Substitution

/-!
# What a substitution changes

A substitution walks through a type and replaces the variables it comes upon.  `reached` is the list
of those variables; with no bindings at all they are the `typeVariables` that the type mentions.
Three facts say what the walk does.

* Bindings matter only at the variables that are reached (`substitute_congr`).
* If no reached variable is bound, the type stays as it is (`substitute_eq_self`), provided that no
  nullable type is directly inside another: a substitution makes a nullable type nullable once.
* The variables of the result are those that were reached and kept, and those of the types put in
  (`typeVariables_substitute`).
-/

namespace Blueprint.TypeExpr

/-! ## Induction on types -/

/-- Induction on types, with the types in a list as a case of their own. -/
@[elab_as_elim]
theorem nestedInduction {P : TypeExpr → Prop} (primitive : ∀ p, P (.primitive p))
    (named : ∀ name args, (∀ t ∈ args, P t) → P (.named name args))
    (parameter : ∀ name bounds, (∀ t ∈ bounds, P t) → P (.parameter name bounds))
    (nullable : ∀ t, P t → P (.nullable t)) (list : ∀ t, P t → P (.list t))
    (set : ∀ t, P t → P (.set t)) (map : ∀ k v, P k → P v → P (.map k v))
    (function : ∀ params result, (∀ t ∈ params, P t) → P result → P (.function params result)) :
    ∀ t, P t :=
  @TypeExpr.rec P (fun ts => ∀ t ∈ ts, P t) primitive named parameter nullable list set map function
    (by simp) fun t ts ht hts => by simpa using ⟨ht, hts⟩

/-- What holds of a type as soon as it holds of the types directly inside holds of all types. -/
@[elab_as_elim]
theorem childInduction {P : TypeExpr → Prop} (step : ∀ t, (∀ s ∈ t.children, P s) → P t) :
    ∀ t, P t := by
  intro t
  induction t using nestedInduction with
  | primitive p => exact step _ (by simp [children])
  | named name args ih => exact step _ ih
  | parameter name bounds ih => exact step _ ih
  | nullable t ih => exact step _ (by simpa [children] using ih)
  | list t ih => exact step _ (by simpa [children] using ih)
  | set t ih => exact step _ (by simpa [children] using ih)
  | map k v ihk ihv => exact step _ (by simpa [children] using ⟨ihk, ihv⟩)
  | function params result ihparams ihresult =>
    refine step _ fun s hs => ?_
    rcases List.mem_append.1 hs with hparam | hresult
    · exact ihparams s hparam
    · exact List.mem_singleton.1 hresult ▸ ihresult

/-! ## Variables -/

mutual

/-- The variables that a substitution comes upon in a type.  It does not look at the bounds of a
variable that it replaces. -/
def reached (bindings : Bindings) : TypeExpr → List String
  | .primitive _ => []
  | .named _ args => reachedAll bindings args
  | .parameter name bounds =>
    name :: if (bindings name).isSome then [] else reachedAll bindings bounds
  | .nullable t => reached bindings t
  | .list t => reached bindings t
  | .set t => reached bindings t
  | .map k v => reached bindings k ++ reached bindings v
  | .function params result => reachedAll bindings params ++ reached bindings result

/-- `reached` on lists of types. -/
def reachedAll (bindings : Bindings) : List TypeExpr → List String
  | [] => []
  | t :: ts => reached bindings t ++ reachedAll bindings ts

end

/-- The variables that a type mentions, at any depth. -/
def typeVariables (t : TypeExpr) : List String :=
  t.reached fun _ => none

lemma reachedAll_eq_flatMap (bindings : Bindings) (ts : List TypeExpr) :
    reachedAll bindings ts = ts.flatMap (reached bindings) := by
  induction ts with
  | nil => rfl
  | cons t ts ih => simp [reachedAll, ih]

section Reached

variable {bindings : Bindings} {v : String} {s t : TypeExpr}

/-- The walk comes upon a variable itself, and goes on into every type that it does not replace. -/
lemma mem_reached_iff :
    v ∈ t.reached bindings ↔ (∃ bounds, t = .parameter v bounds) ∨
      (∀ name bounds, t = .parameter name bounds → bindings name = none) ∧
        ∃ s ∈ t.children, v ∈ s.reached bindings := by
  cases t with
  | parameter name bounds =>
    cases hname : bindings name with
    | none => simp [reached, reachedAll_eq_flatMap, children, hname, eq_comm]
    | some value => simp [reached, hname, eq_comm]
  | _ => simp [reached, reachedAll_eq_flatMap, children, or_and_right, exists_or]

lemma mem_typeVariables_iff :
    v ∈ t.typeVariables ↔
      (∃ bounds, t = .parameter v bounds) ∨ ∃ s ∈ t.children, v ∈ s.typeVariables := by
  simp [typeVariables, mem_reached_iff (t := t)]

lemma mem_typeVariables_of_mem_reached (h : v ∈ t.reached bindings) : v ∈ t.typeVariables := by
  induction t using childInduction with
  | step t ih =>
    rcases mem_reached_iff.1 h with hvariable | ⟨-, s, hs, hv⟩
    · exact mem_typeVariables_iff.2 (Or.inl hvariable)
    · exact mem_typeVariables_iff.2 (Or.inr ⟨s, hs, ih s hs hv⟩)

/-- The mentioned variables are the parts of the type that are variables. -/
lemma mem_typeVariables_iff_isPart :
    v ∈ t.typeVariables ↔ ∃ bounds, IsPart (.parameter v bounds) t := by
  constructor
  · intro h
    induction t using childInduction with
    | step t ih =>
      rcases mem_typeVariables_iff.1 h with ⟨bounds, rfl⟩ | ⟨s, hs, hv⟩
      · exact ⟨bounds, .refl⟩
      · obtain ⟨bounds, hpart⟩ := ih s hs hv
        exact ⟨bounds, hpart.tail hs⟩
  · rintro ⟨bounds, hpart⟩
    induction hpart with
    | refl => exact mem_typeVariables_iff.2 (Or.inl ⟨bounds, rfl⟩)
    | tail _ hchild ih => exact mem_typeVariables_iff.2 (Or.inr ⟨_, hchild, ih⟩)

lemma mentionsVariable_iff : t.MentionsVariable ↔ t.typeVariables ≠ [] := by
  simp only [MentionsVariable, ← mem_typeVariables_iff_isPart]
  exact ⟨fun ⟨_, hv⟩ => List.ne_nil_of_mem hv, List.exists_mem_of_ne_nil _⟩

instance (t : TypeExpr) : Decidable t.MentionsVariable :=
  decidable_of_iff _ mentionsVariable_iff.symm

lemma typeVariables_makeNullable (t : TypeExpr) :
    t.makeNullable.typeVariables = t.typeVariables := by
  unfold makeNullable
  split
  · rfl
  · simp only [typeVariables, reached]

end Reached

/-! ## Substitution -/

/-- A type in which no nullable type is directly inside another, as in every type that was read. -/
def NullableOnce (t : TypeExpr) : Prop :=
  ∀ s, IsPart (.nullable s) t → s.isNullable = false

lemma NullableOnce.child {s t : TypeExpr} (h : NullableOnce t) (hs : s ∈ t.children) :
    NullableOnce s :=
  fun u hu => h u (hu.tail hs)

lemma nullableOnce_iff {t : TypeExpr} :
    NullableOnce t ↔
      (∀ s, t = .nullable s → s.isNullable = false) ∧ ∀ s ∈ t.children, NullableOnce s := by
  constructor
  · intro h
    exact ⟨fun s hs => h s (hs ▸ .refl), fun s hs => h.child hs⟩
  · rintro ⟨hself, hchildren⟩ s hpart
    rcases hpart.cases_tail with heq | ⟨u, hsu, hu⟩
    · exact hself s heq
    · exact hchildren u hu s hsu

section Substitution

variable {bindings other : Bindings} {v : String} {t : TypeExpr}

/-- Bindings matter only at the variables that are reached. -/
lemma substitute_congr (h : ∀ v ∈ t.reached bindings, bindings v = other v) :
    t.substitute bindings = t.substitute other := by
  induction t using nestedInduction with
  | primitive p => rfl
  | named name args ih =>
    have hargs : ∀ t ∈ args, t.substitute bindings = t.substitute other := fun t ht =>
      ih t ht fun v hv => h v (mem_reached_iff.2 (Or.inr ⟨by simp, t, ht, hv⟩))
    simp only [substitute, substituteAll_eq_map, List.map_congr_left hargs]
  | parameter name bounds ih =>
    have hname : bindings name = other name := h name (mem_reached_iff.2 (Or.inl ⟨bounds, rfl⟩))
    cases hvalue : bindings name with
    | some value => simp only [substitute, ← hname, hvalue]
    | none =>
      have hbounds : ∀ t ∈ bounds, t.substitute bindings = t.substitute other := fun t ht =>
        ih t ht fun v hv => h v (mem_reached_iff.2 (Or.inr ⟨by simpa using hvalue, t, ht, hv⟩))
      simp only [substitute, substituteAll_eq_map, ← hname, hvalue, List.map_congr_left hbounds]
  | nullable t ih => simp only [substitute, ih h]
  | list t ih => simp only [substitute, ih h]
  | set t ih => simp only [substitute, ih h]
  | map k v ihk ihv =>
    simp only [reached, List.mem_append] at h
    simp only [substitute, ihk fun v hv => h v (Or.inl hv), ihv fun v hv => h v (Or.inr hv)]
  | function params result ihparams ihresult =>
    simp only [reached, reachedAll_eq_flatMap, List.mem_append, List.mem_flatMap] at h
    have hparams : ∀ t ∈ params, t.substitute bindings = t.substitute other := fun t ht =>
      ihparams t ht fun v hv => h v (Or.inl ⟨t, ht, hv⟩)
    simp only [substitute, substituteAll_eq_map, List.map_congr_left hparams,
      ihresult fun v hv => h v (Or.inr hv)]

/-- Without bindings nothing changes. -/
lemma substitute_none (h : NullableOnce t) : t.substitute (fun _ => none) = t := by
  induction t using nestedInduction with
  | primitive p => rfl
  | named name args ih =>
    have hargs : ∀ t ∈ args, t.substitute (fun _ => none) = t := fun t ht =>
      ih t ht (h.child ht)
    simp only [substitute, substituteAll_eq_map, List.map_congr_left hargs, List.map_id']
  | parameter name bounds ih =>
    have hbounds : ∀ t ∈ bounds, t.substitute (fun _ => none) = t := fun t ht =>
      ih t ht (h.child ht)
    simp only [substitute, substituteAll_eq_map, List.map_congr_left hbounds, List.map_id']
  | nullable t ih =>
    have honce : t.isNullable = false := h t .refl
    simp only [substitute, ih (h.child (by simp [children])), makeNullable, honce]
    rfl
  | list t ih => simp only [substitute, ih (h.child (by simp [children]))]
  | set t ih => simp only [substitute, ih (h.child (by simp [children]))]
  | map k v ihk ihv =>
    simp only [substitute, ihk (h.child (by simp [children])), ihv (h.child (by simp [children]))]
  | function params result ihparams ihresult =>
    have hparams : ∀ t ∈ params, t.substitute (fun _ => none) = t := fun t ht =>
      ihparams t ht (h.child (by simp [children, ht]))
    simp only [substitute, substituteAll_eq_map, List.map_congr_left hparams, List.map_id',
      ihresult (h.child (by simp [children]))]

/-- A type stays as it is if no variable that is reached is bound. -/
lemma substitute_eq_self (h : NullableOnce t)
    (hfree : ∀ v ∈ t.reached bindings, bindings v = none) :
    t.substitute bindings = t :=
  (substitute_congr hfree).trans (substitute_none h)

/-- The variables that stand where a substitution came upon a variable. -/
def Bindings.left (bindings : Bindings) (name : String) : List String :=
  (bindings name).elim [name] typeVariables

/-- The variables after a substitution are those left where it came upon variables before. -/
lemma typeVariables_substitute (t : TypeExpr) :
    (t.substitute bindings).typeVariables = (t.reached bindings).flatMap bindings.left := by
  induction t using nestedInduction with
  | primitive p => rfl
  | named name args ih =>
    simp only [typeVariables, substitute, substituteAll_eq_map, reached, reachedAll_eq_flatMap,
      List.flatMap_map, List.flatMap_assoc] at ih ⊢
    exact List.flatMap_congr ih
  | parameter name bounds ih =>
    cases hvalue : bindings name with
    | some value => simp [substitute, reached, hvalue, Bindings.left]
    | none =>
      have hleft : bindings.left name = [name] := by simp [Bindings.left, hvalue]
      simp only [typeVariables] at ih
      simp only [typeVariables, substitute, substituteAll_eq_map, reached, reachedAll_eq_flatMap,
        hvalue, Option.isSome_none, Bool.false_eq_true, if_false, List.flatMap_cons, hleft,
        List.singleton_append, List.flatMap_map, List.flatMap_assoc]
      rw [List.flatMap_congr ih]
  | nullable t ih => rw [substitute, typeVariables_makeNullable, ih, reached]
  | list t ih => exact ih
  | set t ih => exact ih
  | map k v ihk ihv =>
    simp only [typeVariables] at ihk ihv
    simp only [typeVariables, substitute, reached, List.flatMap_append, ihk, ihv]
  | function params result ihparams ihresult =>
    simp only [typeVariables] at ihparams ihresult
    simp only [typeVariables, substitute, substituteAll_eq_map, reached, reachedAll_eq_flatMap,
      List.flatMap_append, List.flatMap_map, List.flatMap_assoc, ihresult]
    rw [List.flatMap_congr ihparams]

/-- Bindings that put in types without variables. -/
def Bindings.Closed (bindings : Bindings) : Prop :=
  ∀ name value, bindings name = some value → ¬ value.MentionsVariable

/-- Where types without variables are put in, the variables that are left were kept. -/
lemma mem_typeVariables_substitute (h : bindings.Closed) :
    v ∈ (t.substitute bindings).typeVariables ↔ v ∈ t.reached bindings ∧ bindings v = none := by
  rw [typeVariables_substitute, List.mem_flatMap]
  constructor
  · rintro ⟨name, hname, hv⟩
    cases hvalue : bindings name with
    | none =>
      obtain rfl : v = name := by simpa [Bindings.left, hvalue] using hv
      exact ⟨hname, hvalue⟩
    | some value =>
      have hmem : v ∈ value.typeVariables := by simpa [Bindings.left, hvalue] using hv
      exact absurd ⟨v, mem_typeVariables_iff_isPart.1 hmem⟩ (h name value hvalue)
  · rintro ⟨hmem, hnone⟩
    exact ⟨v, hmem, by simp [Bindings.left, hnone]⟩

end Substitution

end Blueprint.TypeExpr
