import Blueprint.Proofs.TypeExpr.Substitution

/-!
# Substitutions one after the other

Two substitutions in a row are one.  The bindings that do the work of both are `first.andThen
second`: what the first puts in still goes through the second, and a variable that only the second
knows is left to it.  This is `substitute_andThen`.

The law is not the one of a plain tree map, for two reasons.  A substitution rebuilds a nullable
type by `makeNullable`, so what it puts in may merge with the layer around it; the merge happens
once, whichever of the two substitutions brings it about (`substitute_makeNullable`).  And a
variable that is kept carries its bounds along, which are rewritten as well, until some later
bindings replace the variable and the bounds with it.

For the same reason a substitution without bindings is not always the identity: it merges the
nullable types that are directly inside one another.  The types it leaves alone are exactly those
that have none (`substitute_ofPairs_nil_iff`).
-/

namespace Blueprint.TypeExpr

/-! ## Bindings in a row -/

/-- The bindings that do at once what `first` and then `second` do. -/
def Bindings.andThen (first second : Bindings) : Bindings := fun name =>
  match first name with
  | some t => some (t.substitute second)
  | none => second name

section AndThen

variable {first second : Bindings} {name : String}

lemma andThen_of_some {t : TypeExpr} (h : first name = some t) :
    first.andThen second name = some (t.substitute second) := by
  simp only [Bindings.andThen, h]

lemma andThen_of_none (h : first name = none) : first.andThen second name = second name := by
  simp only [Bindings.andThen, h]

end AndThen

/-- The later pairs decide on a name before the earlier ones. -/
lemma ofPairs_append (pairs others : List (String × TypeExpr)) (name : String) :
    Bindings.ofPairs (pairs ++ others) name =
      (Bindings.ofPairs others name).or (Bindings.ofPairs pairs name) := by
  simp only [Bindings.ofPairs, List.reverse_append, List.find?_append, Option.map_or]

lemma ofPairs_map (f : TypeExpr → TypeExpr) (pairs : List (String × TypeExpr)) (name : String) :
    Bindings.ofPairs (pairs.map fun pair => (pair.1, f pair.2)) name =
      (Bindings.ofPairs pairs name).map f := by
  simp only [Bindings.ofPairs, ← List.map_reverse, List.find?_map, Option.map_map]
  rfl

/-- Finitely many bindings after finitely many are finitely many: the pairs of the first go through
the second and come last, where they count. -/
lemma andThen_ofPairs (first second : List (String × TypeExpr)) :
    (Bindings.ofPairs first).andThen (.ofPairs second) =
      .ofPairs (second ++ first.map fun pair => (pair.1, pair.2.substitute (.ofPairs second))) := by
  funext name
  rw [ofPairs_append, ofPairs_map]
  cases hfirst : Bindings.ofPairs first name with
  | some t => rw [andThen_of_some hfirst, Option.map_some, Option.some_or]
  | none => rw [andThen_of_none hfirst, Option.map_none, Option.none_or]

/-! ## The law of composition -/

lemma makeNullable_makeNullable (t : TypeExpr) : t.makeNullable.makeNullable = t.makeNullable :=
  makeNullable_of_isNullable t.isNullable_makeNullable

/-- A nullable type stays nullable under a substitution, so it does not matter whether a second
layer is merged before or after. -/
lemma substitute_makeNullable (bindings : Bindings) (t : TypeExpr) :
    t.makeNullable.substitute bindings = (t.substitute bindings).makeNullable := by
  cases t with
  | nullable t =>
    have hmerged : (TypeExpr.nullable t).makeNullable = .nullable t :=
      makeNullable_of_isNullable rfl
    rw [hmerged, substitute, makeNullable_makeNullable]
  | _ => rfl

lemma substituteAll_substituteAll {first second : Bindings} {ts : List TypeExpr}
    (h : ∀ t ∈ ts, (t.substitute first).substitute second = t.substitute (first.andThen second)) :
    substituteAll second (substituteAll first ts) = substituteAll (first.andThen second) ts := by
  simp only [substituteAll_eq_map, List.map_map]
  exact List.map_congr_left h

lemma substitute_substitute (first second : Bindings) (t : TypeExpr) :
    (t.substitute first).substitute second = t.substitute (first.andThen second) := by
  induction t using nestedInduction with
  | primitive p => rfl
  | named name args ih => simp only [substitute, substituteAll_substituteAll ih]
  | parameter name bounds ih =>
    cases hfirst : first name with
    | some t => simp only [substitute, hfirst, andThen_of_some hfirst]
    | none =>
      -- The variable is kept with its bounds rewritten, and the second bindings decide on it.
      simp only [substitute, hfirst, andThen_of_none hfirst, substituteAll_substituteAll ih]
  | nullable t ih => rw [substitute, substitute_makeNullable, ih, substitute]
  | list t ih => simp only [substitute, ih]
  | set t ih => simp only [substitute, ih]
  | map k v ihk ihv => simp only [substitute, ihk, ihv]
  | function params result ihparams ihresult =>
    simp only [substitute, substituteAll_substituteAll ihparams, ihresult]

/-! ## Substitutions that change nothing -/

lemma nullableOnce_makeNullable {t : TypeExpr} (h : NullableOnce t) :
    NullableOnce t.makeNullable := by
  rw [makeNullable]
  split
  · exact h
  · next ht =>
    refine nullableOnce_iff.2 ⟨?_, by simpa [children] using h⟩
    rintro s hs
    cases hs
    simpa using ht

/-- A substitution leaves no nullable type directly inside another, unless it puts in one. -/
lemma nullableOnce_substitute {bindings : Bindings}
    (hvalues : ∀ name value, bindings name = some value → NullableOnce value) (t : TypeExpr) :
    NullableOnce (t.substitute bindings) := by
  induction t using nestedInduction with
  | primitive p => exact nullableOnce_iff.2 ⟨by simp [substitute], by simp [substitute, children]⟩
  | named name args ih =>
    rw [substitute, substituteAll_eq_map]
    exact nullableOnce_iff.2 ⟨by simp, by simpa [children] using ih⟩
  | parameter name bounds ih =>
    cases hvalue : bindings name with
    | some value =>
      simp only [substitute, hvalue]
      exact hvalues name value hvalue
    | none =>
      simp only [substitute, hvalue, substituteAll_eq_map]
      exact nullableOnce_iff.2 ⟨by simp, by simpa [children] using ih⟩
  | nullable t ih => exact nullableOnce_makeNullable ih
  | list t ih => exact nullableOnce_iff.2 ⟨by simp [substitute], by simpa [substitute, children]⟩
  | set t ih => exact nullableOnce_iff.2 ⟨by simp [substitute], by simpa [substitute, children]⟩
  | map k v ihk ihv =>
    refine nullableOnce_iff.2 ⟨by simp [substitute], ?_⟩
    simpa [substitute, children] using ⟨ihk, ihv⟩
  | function params result ihparams ihresult =>
    rw [substitute, substituteAll_eq_map]
    refine nullableOnce_iff.2 ⟨by simp, ?_⟩
    intro s hs
    rcases List.mem_append.1 hs with hparam | hresult
    · obtain ⟨t, ht, rfl⟩ := List.mem_map.1 hparam
      exact ihparams t ht
    · exact List.mem_singleton.1 hresult ▸ ihresult

/-- Without bindings exactly the types stay as they are in which no nullable type is directly inside
another. -/
lemma substitute_ofPairs_nil_iff {t : TypeExpr} :
    t.substitute (.ofPairs []) = t ↔ NullableOnce t := by
  constructor
  · intro h
    rw [← h]
    exact nullableOnce_substitute (by simp [Bindings.ofPairs]) t
  · exact fun h => substitute_none h

/-- **Substitution composes.**  Whatever the type, a substitution followed by another is the
substitution of the composed bindings, and these are finitely many if both were.  Substituting by no
bindings changes nothing exactly if no nullable type is directly inside another. -/
theorem substitute_andThen :
    (∀ (t : TypeExpr) (first second : Bindings),
        (t.substitute first).substitute second = t.substitute (first.andThen second)) ∧
      (∀ first second : List (String × TypeExpr),
        (Bindings.ofPairs first).andThen (.ofPairs second) =
          .ofPairs (second ++ first.map fun pair =>
            (pair.1, pair.2.substitute (.ofPairs second)))) ∧
      ∀ t : TypeExpr, t.substitute (.ofPairs []) = t ↔ NullableOnce t :=
  ⟨fun t first second => substitute_substitute first second t, andThen_ofPairs,
    fun _ => substitute_ofPairs_nil_iff⟩

end Blueprint.TypeExpr
