import Blueprint.Pattern.Reader
import Blueprint.Proofs.Rule.Signature

/-!
# The verdict on models and ports

What it means that a verdict is favourable, without reference to the order of the checks:
`Satisfies` lists the conditions, and `isValid_iff_satisfies` says that the verdict decides them and
how many errors each of the rules on repeated names contributes to it.

Methods are compared by their signatures, which are texts.  Where the names inside the types are
dotted identifiers, this is a comparison of names and displayed types.  Types that do not come from
a document may be called anything, and `isValid_false_of_comma` has two different methods with one
signature.
-/

namespace Blueprint.Rule

open Blueprint.Kotlin (HasDottedNames)

variable {identifier : Pattern} {models : List Model} {ports : List Port}

/-- Models and ports that keep all the rules. -/
structure Satisfies (identifier : Pattern) (models : List Model) (ports : List Port) : Prop where
  declared : (declaredNames models ports).Nodup
  modelNames : ∀ m ∈ models, ∀ name ∈ m.identifiers, identifier.isMatch name = true
  portNames : ∀ p ∈ ports, ∀ name ∈ p.identifiers, identifier.isMatch name = true
  properties : ∀ m ∈ models, ∀ names ∈ m.propertyNames, names.Nodup
  enums : ∀ m ∈ models, ∀ values ∈ m.enumValues, values ≠ [] ∧ values.Nodup
  methods : ∀ p ∈ ports, (p.methods.map signature).Nodup

lemma violations_eq_nil_iff_satisfies :
    violations identifier models ports = [] ↔ Satisfies identifier models ports := by
  simp only [violations_eq_nil_iff, checkDeclared_eq_nil_iff, checkModel_eq_nil_iff,
    checkPort_eq_nil_iff]
  constructor
  · rintro ⟨hdeclared, hmodels, hports⟩
    exact ⟨hdeclared, fun m hm => (hmodels m hm).1, fun p hp => (hports p hp).1,
      fun m hm => (hmodels m hm).2.1, fun m hm => (hmodels m hm).2.2, fun p hp => (hports p hp).2⟩
  · intro h
    exact ⟨h.declared, fun m hm => ⟨h.modelNames m hm, h.properties m hm, h.enums m hm⟩,
      fun p hp => ⟨h.portNames p hp, h.methods p hp⟩⟩

lemma label_injective : Function.Injective label := by
  intro r r' h
  cases r <;> cases r' <;> first | rfl | exact absurd h (by decide)

/-- The errors under the label of a rule are the violations of it. -/
lemma countP_errors (r : Rule) :
    (validate identifier models ports).errors.countP (·.rule = r.label) =
      (violations identifier models ports).countP (·.rule = r) := by
  simp [validate, Verdict.ofFindings, List.countP_map, Function.comp_def, Violation.toIssue,
    label_injective.eq_iff]

/-- **What a favourable verdict means.**  Models and ports are valid exactly if the names they
declare are pairwise different, all names match the pattern, no class repeats a property, every enum
has values and repeats none, and no port has two methods with one signature.  A rule that forbids
repetitions contributes an error for each name that repeats an earlier one of its list, and warnings
do not count.  Signatures compare names and displayed types, if the names inside the types are
dotted identifiers. -/
theorem isValid_iff_satisfies (identifier : Pattern) (models : List Model) (ports : List Port) :
    ((validate identifier models ports).isValid = true ↔ Satisfies identifier models ports) ∧
      (∀ r, r ≠ .validIdentifier → r ≠ .nonEmptyEnum →
        (validate identifier models ports).errors.countP (·.rule = r.label) =
          ((covered models ports r).map repeatCount).sum) ∧
      (∀ warnings, (Verdict.ofFindings (validate identifier models ports).errors warnings).isValid =
        (validate identifier models ports).isValid) ∧
      ∀ p ∈ ports, (∀ m ∈ p.methods, ∀ t ∈ m.paramTypes, HasDottedNames t) →
        ((p.methods.map signature).Nodup ↔
          (p.methods.map fun m => (m.name, m.paramTypes.map TypeExpr.display)).Nodup) := by
  refine ⟨?_, ?_, fun _ => rfl, ?_⟩
  · rw [isValid_iff, violations_eq_nil_iff_satisfies]
  · intro r hr hr'
    rw [countP_errors, countP_violations hr hr']
  · intro p _ hdotted
    refine nodup_map_congr fun m hm m' hm' => ?_
    rw [signature_eq_iff (hdotted m hm) (hdotted m' hm'), Prod.mk.injEq]

/-- A unit that breaks three of the rules at once and has a warning besides: two variants of one
name, a property that stands three times, and an overload that is none. -/
theorem isValid_iff_satisfies_repeats :
    let property : Property := { name := "id", type := .primitive .int }
    let method : Method := { name := "find", params := [⟨"by", .named "Name" [], none⟩] }
    let models : List Model :=
      [⟨"Event", "acme", .sealedHierarchy [] [{ name := "Sent" }, { name := "Sent" }]⟩,
        ⟨"User", "acme", .entity [] [property, property, property]⟩]
    let ports : List Port :=
      [{ name := "Users", methods := [method, method] }, { name := "Unused" }]
    let verdict := validate .empty models ports
    verdict.isValid = false ∧ verdict.hasWarnings = true ∧
      verdict.errors.countP (·.rule = uniqueDeclarationNames.label) = 1 ∧
      verdict.errors.countP (·.rule = uniquePropertyNames.label) = 2 ∧
      verdict.errors.countP (·.rule = uniqueMethodSignature.label) = 1 := by
  intro property method models ports verdict
  obtain ⟨hvalid, hcount, -, -⟩ := isValid_iff_satisfies .empty models ports
  refine ⟨?_, by decide, ?_, ?_, ?_⟩
  · rw [Bool.eq_false_iff, ne_eq, hvalid]
    intro h
    exact absurd h.declared (by decide +kernel)
  · exact (hcount _ (by decide) (by decide)).trans (by decide +kernel)
  · exact (hcount _ (by decide) (by decide)).trans (by decide +kernel)
  · exact (hcount _ (by decide) (by decide)).trans (by decide +kernel)

/-- A type whose name holds a comma is displayed like a list of two types.  Two methods that differ
in the number of their parameters are taken for one. -/
theorem isValid_false_of_comma :
    let p : Port :=
      { name := "P"
        methods :=
          [{ name := "f", params := [⟨"a", .named "A, B" [], none⟩] },
            { name := "f", params := [⟨"a", .named "A" [], none⟩, ⟨"b", .named "B" [], none⟩] }] }
    (p.methods.map fun m => (m.name, m.paramTypes.map TypeExpr.display)).Nodup ∧
      (Pattern.parse defaultPattern).toOption.map (fun identifier =>
        (violations identifier [] [p], (validate identifier [] [p]).isValid)) =
          some ([Violation.repeatedMethod "P" "f(A, B)"], false) := by
  decide +kernel

end Blueprint.Rule
