import Blueprint.Kotlin.Renderable
import Blueprint.Migration.Document
import Blueprint.Proofs.DottedName
import Blueprint.Proofs.Rule.Check

/-!
# Valid units and renderable units

A unit is judged twice before its file is written.  The rules look at its models and ports and
compare qualified names; `checkRenderable` looks at all four kinds of declarations and compares the
simple names that share a file.  This file relates the two verdicts.

Validity settles what happens inside a model: the properties of a class and the values of an enum
are pairwise different.  It says nothing of adapters and services, and of the top-level names it
settles only those that models and ports of one package declare.  `checkRenderable_iff_of_isValid`
states exactly what is left over, and `isValid_not_renderable` shows that both gaps are real.
-/

namespace Blueprint

/-! ## What makes a unit renderable -/

lemma Scope.redeclaration?_eq_none_iff (s : Scope) : s.redeclaration? = none ↔ s.names.Nodup := by
  rw [redeclaration?, Option.map_eq_none_iff, firstRepeat_eq_none_iff]

lemma SourceUnit.checkRenderable_eq_ok_iff (u : SourceUnit) :
    u.checkRenderable = .ok () ↔ ∀ scope ∈ u.scopes, scope.names.Nodup := by
  have hscopes : (∀ scope ∈ u.scopes, scope.names.Nodup) ↔
      u.scopes.findSome? Scope.redeclaration? = none := by
    simp only [List.findSome?_eq_none_iff, Scope.redeclaration?_eq_none_iff]
  rw [hscopes, checkRenderable]
  cases u.scopes.findSome? Scope.redeclaration? <;> simp

/-- The scopes of a unit one kind of declaration at a time. -/
lemma SourceUnit.forall_scopes_iff (u : SourceUnit) :
    (∀ scope ∈ u.scopes, scope.names.Nodup) ↔
      u.topLevelNames.Nodup ∧ (∀ m ∈ u.models, ∀ scope ∈ m.scopes, scope.names.Nodup) ∧
        (∀ a ∈ u.adapters, (a.constructorParams.map Parameter.name).Nodup) ∧
        ∀ s ∈ u.services, (s.constructorParams.map Parameter.name).Nodup := by
  simp only [scopes, List.cons_append, List.forall_mem_cons, List.forall_mem_append,
    List.forall_mem_map, List.mem_flatMap, forall_exists_index, and_imp, and_assoc]
  refine and_congr_right fun _ => and_congr_left fun _ => ?_
  exact ⟨fun h m hm scope hscope => h scope m hm hscope,
    fun h scope m hm hscope => h m hm scope hscope⟩

/-! ## What the rules settle -/

namespace Rule

/-- The scopes inside a model that keeps the rules hold no repeated name. -/
lemma nodup_scopes_of_checkModel {identifier : Pattern} {m : Model}
    (h : checkModel identifier m = []) : ∀ scope ∈ m.scopes, scope.names.Nodup := by
  obtain ⟨-, hbody⟩ := List.append_eq_nil_iff.1 h
  unfold Model.scopes
  intro scope hscope
  cases hshape : m.shape with
  | valueObject typeParams properties wrapper =>
    simp only [hshape, List.mem_singleton] at hbody hscope
    rw [hscope]
    exact (checkNames_eq_nil_iff.1 hbody).2
  | entity typeParams properties =>
    simp only [hshape, List.mem_singleton] at hbody hscope
    rw [hscope]
    exact (checkNames_eq_nil_iff.1 hbody).2
  | sealedHierarchy typeParams variants =>
    simp only [hshape, List.mem_map, List.flatMap_eq_nil_iff] at hbody hscope
    obtain ⟨v, hv, rfl⟩ := hscope
    exact (checkNames_eq_nil_iff.1 (List.append_eq_nil_iff.1 (hbody v hv)).2).2
  | enum values =>
    simp only [hshape, List.mem_singleton, List.append_eq_nil_iff] at hbody hscope
    rw [hscope]
    exact (checkNames_eq_nil_iff.1 hbody.2).2

/-- Within one package the qualified names differ exactly as the simple names do. -/
lemma declaredNames_of_package {package : String} {models : List Model} {ports : List Port}
    (hmodels : ∀ m ∈ models, m.package = package) (hports : ∀ p ∈ ports, p.package = package) :
    declaredNames models ports =
      (models.flatMap Model.classNames ++ ports.map Port.name).map
        (DottedName.qualify package) := by
  have hmodel : models.flatMap Model.declaredNames =
      (models.flatMap Model.classNames).map (DottedName.qualify package) := by
    rw [List.map_flatMap]
    exact List.flatMap_congr fun m hm => by rw [Model.declaredNames, hmodels m hm]
  have hport : ports.map Port.qualifiedName =
      (ports.map Port.name).map (DottedName.qualify package) := by
    rw [List.map_map]
    exact List.map_congr_left fun p hp => by
      simp only [Port.qualifiedName, hports p hp, Function.comp_apply]
  rw [declaredNames, hmodel, hport, List.map_append]

end Rule

/-! ## From one verdict to the other -/

/-- **What validity leaves to be checked.**  A valid unit is renderable exactly when its top-level
names are pairwise different and no adapter or service repeats a constructor parameter.  Of the
top-level names validity settles those of models, variants and ports, if these share a package. -/
theorem checkRenderable_iff_of_isValid {u : SourceUnit} {identifier : Pattern}
    (hvalid : (u.verdict identifier).isValid = true) :
    (u.checkRenderable = .ok () ↔
        u.topLevelNames.Nodup ∧
          (∀ a ∈ u.adapters, (a.constructorParams.map Parameter.name).Nodup) ∧
          ∀ s ∈ u.services, (s.constructorParams.map Parameter.name).Nodup) ∧
      ∀ package, (∀ m ∈ u.models, m.package = package) → (∀ p ∈ u.ports, p.package = package) →
        (u.models.flatMap Model.classNames ++ u.ports.map Port.name).Nodup := by
  obtain ⟨hdeclared, hmodels, -⟩ := Rule.violations_eq_nil_iff.1 ((Rule.isValid_iff ..).1 hvalid)
  constructor
  · rw [u.checkRenderable_eq_ok_iff, u.forall_scopes_iff]
    refine and_congr_right fun _ => and_iff_right fun m hm => ?_
    exact Rule.nodup_scopes_of_checkModel (hmodels m hm)
  · intro package hm hp
    have hnodup := Rule.checkDeclared_eq_nil_iff.1 hdeclared
    rw [Rule.declaredNames_of_package hm hp] at hnodup
    exact hnodup.of_map

/-- The simple names of an adapter and a service differ from those of the models, and both have
constructor parameters of different names, so the unit is renderable. -/
theorem checkRenderable_iff_of_isValid_adapter :
    let u : SourceUnit :=
      { package := "com.acme"
        models := [⟨"User", "com.acme", .entity [] [{ name := "id", type := .primitive .int }]⟩]
        adapters := [{ name := "StoredUsers", implements := .named "Users" []
                       infrastructure := [{ name := "db", type := .named "Database" [] }]
                       others := [⟨"clock", .named "Clock" [], none⟩] }]
        services := [{ name := "Registration", ports := [⟨.named "Users" [], "users", none⟩] }] }
    (u.verdict .empty).isValid = true ∧ u.checkRenderable = .ok () := by
  intro u
  have hvalid : (u.verdict .empty).isValid = true := by decide +kernel
  refine ⟨hvalid, (checkRenderable_iff_of_isValid hvalid).1.2 ⟨?_, ?_, ?_⟩⟩
  · decide +kernel
  · decide +kernel
  · decide +kernel

/-- Two valid units that cannot be rendered: a service that receives two dependencies under one
name, and two models of different packages that meet in one file. -/
theorem isValid_not_renderable :
    let service : SourceUnit :=
      { package := "com.acme"
        services := [{ name := "UserService", package := "com.acme"
                       ports := [⟨.named "UserRepository" [], "users", none⟩]
                       others := [⟨"users", .named "Cache" [], none⟩] }] }
    let models : SourceUnit :=
      { package := "com.acme"
        models := [⟨"User", "com.acme", .entity [] []⟩, ⟨"User", "com.acme.old", .entity [] []⟩] }
    ((service.verdict .empty).isValid = true ∧
        service.checkRenderable =
          .error ⟨"com.acme.UserService", .constructorParameter, "users"⟩) ∧
      (models.verdict .empty).isValid = true ∧
        models.checkRenderable = .error ⟨"com.acme", .topLevelClass, "User"⟩ := by
  decide +kernel

end Blueprint
