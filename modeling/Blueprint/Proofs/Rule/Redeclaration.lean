import Blueprint.Proofs.Renderable
import Blueprint.Proofs.Rule.Verdict

/-!
# The two checks for repeated names

Repeated names are looked for twice.  The rules go through models and ports, compare qualified
names, and report every name that repeats an earlier one.  `checkRenderable` goes through the scopes
of the file, compares the simple names, and stops at the first.  Nothing in the code ties the two
together.

Where the unit has models and ports only, all in its own package, they see the same.  The common
measure is the list of all redeclarations of a unit (`SourceUnit.redeclarations`): it is the list of
violations of the three rules on repeated names, entry by entry and in the same order
(`filter_violations`), and `checkRenderable` returns its head (`checkRenderable_eq_error_iff`).
-/

namespace Blueprint

/-! ## Repeated entries -/

section Repeats

variable {α β : Type} [DecidableEq α] [DecidableEq β]

/-- The entries of a list that repeat an earlier one, in order. -/
def repeats (as : List α) : List α :=
  ((as.zip (repeatFlags as)).filter (·.2)).map (·.1)

lemma firstRepeat_eq_head? (as : List α) : firstRepeat as = (repeats as).head? := by
  rw [firstRepeat, repeats, List.head?_map, List.head?_filter]

lemma repeatFlagsFrom_map {f : α → β} (hf : Function.Injective f) (seen as : List α) :
    repeatFlagsFrom (seen.map f) (as.map f) = repeatFlagsFrom seen as := by
  induction as generalizing seen with
  | nil => rfl
  | cons a as ih =>
    have hrest := ih (a :: seen)
    rw [List.map_cons] at hrest
    rw [List.map_cons, repeatFlagsFrom, repeatFlagsFrom, hrest]
    simp only [List.mem_map_of_injective hf]

/-- Names that are told apart in the same way repeat at the same places. -/
lemma repeats_map {f : α → β} (hf : Function.Injective f) (as : List α) :
    repeats (as.map f) = (repeats as).map f := by
  have hflags : repeatFlags (as.map f) = repeatFlags as := repeatFlagsFrom_map hf [] as
  rw [repeats, repeats, hflags, List.zip_map_left, List.filter_map, List.map_map, List.map_map]
  rfl

end Repeats

/-! ## All redeclarations of a unit -/

/-- Every name of a scope that repeats an earlier one. -/
def Scope.redeclarations (s : Scope) : List Redeclaration :=
  (repeats s.names).map (⟨s.owner, s.thing, ·⟩)

/-- Every redeclaration of a unit, in the order in which the scopes are checked. -/
def SourceUnit.redeclarations (u : SourceUnit) : List Redeclaration :=
  u.scopes.flatMap Scope.redeclarations

lemma Scope.redeclaration?_eq_head? (s : Scope) : s.redeclaration? = s.redeclarations.head? := by
  rw [redeclaration?, redeclarations, firstRepeat_eq_head?, List.head?_map]

namespace SourceUnit

lemma findSome?_scopes (u : SourceUnit) :
    u.scopes.findSome? Scope.redeclaration? = u.redeclarations.head? := by
  rw [redeclarations, List.head?_flatMap]
  exact congrArg (List.findSome? · u.scopes) (funext Scope.redeclaration?_eq_head?)

lemma checkRenderable_eq_error_iff {u : SourceUnit} {r : Redeclaration} :
    u.checkRenderable = .error r ↔ u.redeclarations.head? = some r := by
  rw [checkRenderable, findSome?_scopes]
  cases u.redeclarations.head? <;> simp

lemma checkRenderable_eq_ok_iff_redeclarations {u : SourceUnit} :
    u.checkRenderable = .ok () ↔ u.redeclarations = [] := by
  rw [checkRenderable, findSome?_scopes, ← List.head?_eq_none_iff]
  cases u.redeclarations.head? <;> simp

end SourceUnit

/-! ## Redeclarations as violations -/

/-- The violation that reports a redeclaration in a unit of the package.  The rules do not look at
constructor parameters. -/
def Redeclaration.violation? (package : String) (r : Redeclaration) : Option Violation :=
  match r.thing with
  | .topLevelClass => some (.repeatedDeclaration (DottedName.qualify package r.name))
  | .property => some (.repeatedProperty r.owner r.name)
  | .enumValue => some (.repeatedEnumValue r.owner r.name)
  | .constructorParameter => none

namespace Rule

/-- The rules that forbid repeated names of declarations, properties and enum values. -/
def onRepeatedNames : List Rule :=
  [.uniqueDeclarationNames, .uniquePropertyNames, .uniqueEnumValues]

/-- Whether a violation is one of a repeated name. -/
def isRepeatedName (v : Violation) : Bool :=
  v.rule ∈ onRepeatedNames

variable {identifier : Pattern} {owner what : String}

lemma filter_checkIdentifier (name : String) :
    (checkIdentifier identifier owner what name).filter isRepeatedName = [] := by
  rw [checkIdentifier]
  split <;> rfl

/-- Of the violations along a list those at the flags are left, if the entries have none such of
their own. -/
lemma filter_scan {β : Type} {own : β → List Violation} {repeated : β → Violation}
    (hown : ∀ x, (own x).filter isRepeatedName = [])
    (hrepeated : ∀ x, isRepeatedName (repeated x) = true) (xs : List β) (flags : List Bool) :
    (scan own repeated xs flags).filter isRepeatedName =
      (((xs.zip flags).filter (·.2)).map (·.1)).map repeated := by
  induction xs generalizing flags with
  | nil => rfl
  | cons x xs ih =>
    cases flags with
    | nil => rfl
    | cons flag flags =>
      rw [scan_cons, List.filter_append, List.filter_append, hown, ih, List.zip_cons_cons]
      cases flag <;> simp [hrepeated]

lemma filter_checkNames {repeated : String → Violation}
    (hrepeated : ∀ name, isRepeatedName (repeated name) = true) (names : List String) :
    (checkNames identifier owner what repeated names).filter isRepeatedName =
      (repeats names).map repeated := by
  rw [checkNames_eq_scan, filter_scan filter_checkIdentifier hrepeated, repeats]

lemma filter_checkDeclared (names : List String) :
    (checkDeclared names).filter isRepeatedName = (repeats names).map .repeatedDeclaration := by
  rw [checkDeclared_eq_scan, filter_scan (fun _ => rfl) (fun _ => rfl), repeats]

lemma filter_checkPort (p : Port) : (checkPort identifier p).filter isRepeatedName = [] := by
  have hmethod : ∀ v ∈ checkPort identifier p, isRepeatedName v = false := by
    intro v hv
    have hkinds : v.rule = .validIdentifier ∨ v.rule = .uniqueMethodSignature := by
      simp only [checkPort, checkIdentifier, List.mem_append, List.mem_flatMap] at hv
      grind [Violation.rule]
    rcases hkinds with h | h <;> simp [isRepeatedName, h, onRepeatedNames]
  simpa [List.filter_eq_nil_iff] using hmethod

lemma filterMap_redeclarations {package : String} {s : Scope} {report : String → Violation}
    (h : ∀ name, Redeclaration.violation? package ⟨s.owner, s.thing, name⟩ = some (report name)) :
    s.redeclarations.filterMap (Redeclaration.violation? package) =
      (repeats s.names).map report := by
  rw [Scope.redeclarations, List.filterMap_map, ← List.filterMap_eq_map]
  exact List.filterMap_congr fun name _ => h name

/-- Inside a model both checks find the same names at the same places. -/
lemma filter_checkModel (package : String) (m : Model) :
    (checkModel identifier m).filter isRepeatedName =
      (m.scopes.flatMap Scope.redeclarations).filterMap (Redeclaration.violation? package) := by
  have hproperties : ∀ owner properties,
      (checkProperties identifier owner properties).filter isRepeatedName =
        (Scope.redeclarations ⟨owner, .property, properties.map Property.name⟩).filterMap
          (Redeclaration.violation? package) := by
    intro owner properties
    rw [checkProperties, filter_checkNames (fun _ => rfl), filterMap_redeclarations fun _ => rfl]
  simp only [checkModel, Model.scopes, List.filter_append, filter_checkIdentifier, List.nil_append]
  cases m.shape with
  | valueObject typeParams properties wrapper => simp only [hproperties, List.flatMap_singleton]
  | entity typeParams properties => simp only [hproperties, List.flatMap_singleton]
  | sealedHierarchy typeParams variants =>
    simp only [List.filter_flatMap, List.filter_append, filter_checkIdentifier, List.nil_append,
      hproperties, List.flatMap_map, List.filterMap_flatMap]
  | enum values =>
    have hempty : (if values.isEmpty then [Violation.emptyEnum m.qualifiedName] else []).filter
        isRepeatedName = [] := by
      split <;> rfl
    rw [List.flatMap_singleton, filterMap_redeclarations fun _ => rfl, List.filter_append, hempty,
      List.nil_append, filter_checkNames fun _ => rfl]

/-- In a unit of models and ports of one package the violations of the three rules are the
redeclarations, in the same order. -/
lemma filter_violations {u : SourceUnit} (hadapters : u.adapters = []) (hservices : u.services = [])
    (hmodels : ∀ m ∈ u.models, m.package = u.package)
    (hports : ∀ p ∈ u.ports, p.package = u.package) :
    (violations identifier u.models u.ports).filter isRepeatedName =
      u.redeclarations.filterMap (Redeclaration.violation? u.package) := by
  have hnames : declaredNames u.models u.ports =
      u.topLevelNames.map (DottedName.qualify u.package) := by
    rw [declaredNames_of_package hmodels hports, SourceUnit.topLevelNames, hadapters, hservices]
    simp only [List.map_nil, List.append_nil]
  have hdeclared : (checkDeclared (declaredNames u.models u.ports)).filter isRepeatedName =
      (Scope.redeclarations ⟨u.packageLabel, .topLevelClass, u.topLevelNames⟩).filterMap
        (Redeclaration.violation? u.package) := by
    -- One check compares qualified names and the other simple ones; with one package in front the
    -- same names repeat.
    rw [filter_checkDeclared, hnames, repeats_map (DottedName.qualify_injective u.package),
      List.map_map, filterMap_redeclarations fun _ => rfl]
    rfl
  have hscopes : u.scopes =
      ⟨u.packageLabel, .topLevelClass, u.topLevelNames⟩ :: u.models.flatMap Model.scopes := by
    simp [SourceUnit.scopes, hadapters, hservices]
  have hport : (u.ports.flatMap (checkPort identifier)).filter isRepeatedName = [] := by
    rw [List.filter_flatMap, List.flatMap_eq_nil_iff]
    exact fun p _ => filter_checkPort p
  rw [violations, List.filter_append, List.filter_append, hdeclared, hport, List.append_nil,
    SourceUnit.redeclarations, hscopes, List.flatMap_cons, List.filterMap_append]
  simp only [List.filter_flatMap, filter_checkModel u.package, List.flatMap_assoc,
    List.filterMap_flatMap]

/-- The errors under the labels of the three rules are the violations of them. -/
lemma filter_errors (models : List Model) (ports : List Port) :
    (validate identifier models ports).errors.filter (·.rule ∈ onRepeatedNames.map label) =
      ((violations identifier models ports).filter isRepeatedName).map Violation.toIssue := by
  have hlabel : ∀ v : Violation,
      decide (v.toIssue.rule ∈ onRepeatedNames.map label) = isRepeatedName v := by
    intro v
    simp only [isRepeatedName, Violation.toIssue, List.mem_map_of_injective label_injective]
  rw [validate, Verdict.ofFindings, List.filter_map]
  exact congrArg (List.map Violation.toIssue) (List.filter_congr fun v _ => hlabel v)

end Rule

/-! ## Agreement -/

/-- The name stands somewhere in the text. -/
def Names (text name : String) : Prop :=
  ∃ before after, text = before ++ name ++ after

namespace Redeclaration

lemma names_message (r : Redeclaration) : Names r.message r.name :=
  ⟨r.owner ++ " declares " ++ r.thing.label ++ " '", "' more than once", by
    simp only [message, String.append_assoc]⟩

/-- Only constructor parameters are no concern of the rules, and the report of anything else names
what is redeclared. -/
lemma violation?_eq_some {package : String} {r : Redeclaration}
    (h : r.thing ≠ .constructorParameter) :
    ∃ v, r.violation? package = some v ∧ Names v.message r.name := by
  unfold violation?
  cases hthing : r.thing with
  | topLevelClass =>
    refine ⟨_, rfl, ?_⟩
    by_cases hpackage : package = ""
    · exact ⟨"", " is declared more than once", by simp [Violation.message, hpackage]⟩
    · refine ⟨package ++ ".", " is declared more than once", ?_⟩
      simp only [Violation.message, DottedName.qualify_of_ne_empty hpackage]
  | property =>
    refine ⟨_, rfl, r.owner ++ " declares property '", "' more than once", ?_⟩
    simp only [Violation.message, String.append_assoc]
  | enumValue =>
    refine ⟨_, rfl, "Enum " ++ r.owner ++ " lists '", "' more than once", ?_⟩
    simp only [Violation.message, String.append_assoc]
  | constructorParameter => exact absurd hthing h

end Redeclaration

/-- Without adapters and services no constructor parameter is redeclared. -/
lemma SourceUnit.thing_ne_constructorParameter {u : SourceUnit} (hadapters : u.adapters = [])
    (hservices : u.services = []) {r : Redeclaration} (hr : r ∈ u.redeclarations) :
    r.thing ≠ .constructorParameter := by
  have hscopes : ∀ s ∈ u.scopes, s.thing ≠ .constructorParameter := by
    simp only [scopes, hadapters, hservices, List.map_nil, List.append_nil, List.forall_mem_cons,
      List.forall_mem_flatMap]
    refine ⟨by simp, fun m _ s hs => ?_⟩
    unfold Model.scopes at hs
    cases hshape : m.shape <;> grind
  obtain ⟨s, hs, hmem⟩ := List.mem_flatMap.1 hr
  obtain ⟨name, -, rfl⟩ := List.mem_map.1 hmem
  exact hscopes s hs

/-- **The two checks agree on models and ports.**  Take a unit without adapters and services whose
models and ports carry its package.  Whatever the pattern of identifiers, it is renderable exactly
if validation reports nothing under the three rules on repeated names.  If it is not, rendering
fails with a render failure that names the redeclared name, and validation reports the same
redeclaration, naming it too; it is the first that validation reports under the three rules. -/
theorem checkRenderable_iff_onRepeatedNames {u : SourceUnit} (identifier : Pattern)
    (hadapters : u.adapters = []) (hservices : u.services = [])
    (hmodels : ∀ m ∈ u.models, m.package = u.package)
    (hports : ∀ p ∈ u.ports, p.package = u.package) :
    (u.checkRenderable = .ok () ↔
        ∀ e ∈ (u.verdict identifier).errors, e.rule ∉ Rule.onRepeatedNames.map Rule.label) ∧
      ∀ r, u.checkRenderable = .error r →
        (∀ layout, renderChecked layout u = .error (.render r.message)) ∧
          Names r.message r.name ∧
          ∃ v, r.violation? u.package = some v ∧ Names v.message r.name ∧
            (u.verdict identifier).errors.find? (·.rule ∈ Rule.onRepeatedNames.map Rule.label) =
              some v.toIssue := by
  have herrors : (u.verdict identifier).errors.filter
      (·.rule ∈ Rule.onRepeatedNames.map Rule.label) =
        (u.redeclarations.filterMap (Redeclaration.violation? u.package)).map
          Violation.toIssue := by
    rw [SourceUnit.verdict, Rule.filter_errors,
      Rule.filter_violations hadapters hservices hmodels hports]
  have hreported : ∀ r ∈ u.redeclarations,
      ∃ v, r.violation? u.package = some v ∧ Names v.message r.name := fun r hr =>
    Redeclaration.violation?_eq_some (u.thing_ne_constructorParameter hadapters hservices hr)
  constructor
  · have hnone : (∀ e ∈ (u.verdict identifier).errors,
        e.rule ∉ Rule.onRepeatedNames.map Rule.label) ↔
          u.redeclarations.filterMap (Redeclaration.violation? u.package) = [] := by
      rw [← List.map_eq_nil_iff, ← herrors, List.filter_eq_nil_iff]
      simp only [decide_eq_true_eq]
    rw [hnone, SourceUnit.checkRenderable_eq_ok_iff_redeclarations, List.filterMap_eq_nil_iff]
    constructor
    · intro h r hr
      rw [h] at hr
      cases hr
    · intro h
      refine List.eq_nil_iff_forall_not_mem.2 fun r hr => ?_
      obtain ⟨v, hv, -⟩ := hreported r hr
      rw [h r hr] at hv
      cases hv
  · intro r hr
    obtain ⟨rest, hrest⟩ := List.head?_eq_some_iff.1 (SourceUnit.checkRenderable_eq_error_iff.1 hr)
    obtain ⟨v, hv, hnames⟩ := hreported r (by simp [hrest])
    refine ⟨fun layout => ?_, r.names_message, v, hv, hnames, ?_⟩
    · rw [renderChecked, hr]
    · rw [← List.head?_filter, herrors, hrest, List.filterMap_cons_some hv]
      rfl

/-- A variant and a port meet in one name, the properties of the variant and the values of an enum
repeat as well.  Both checks come upon the name of the variant first. -/
theorem checkRenderable_iff_onRepeatedNames_event :
    let id : Property := { name := "id", type := .primitive .int }
    let u : SourceUnit :=
      { package := "com.acme"
        models :=
          [⟨"Event", "com.acme", .sealedHierarchy [] [{ name := "Sent", properties := [id, id] }]⟩,
            ⟨"Status", "com.acme", .enum ["ON", "OFF", "ON"]⟩]
        ports := [{ name := "Sent", package := "com.acme" }] }
    u.checkRenderable = .error ⟨"com.acme", .topLevelClass, "Sent"⟩ ∧
      (∀ layout, renderChecked layout u =
        .error (.render "com.acme declares top-level class 'Sent' more than once")) ∧
      (u.verdict .empty).errors.find? (·.rule ∈ Rule.onRepeatedNames.map Rule.label) =
        some ⟨"unique-declaration-names", "com.acme.Sent is declared more than once", none⟩ := by
  intro id u
  have hcheck : u.checkRenderable = .error ⟨"com.acme", .topLevelClass, "Sent"⟩ := by
    decide +kernel
  obtain ⟨-, hagree⟩ := checkRenderable_iff_onRepeatedNames (u := u) .empty rfl rfl
    (by decide +kernel) (by decide +kernel)
  obtain ⟨hrender, -, v, hv, -, hfind⟩ := hagree _ hcheck
  refine ⟨hcheck, hrender, hfind.trans ?_⟩
  cases hv
  rfl

end Blueprint
