import Blueprint.Proofs.Document.Scope
import Blueprint.Proofs.Rule.Check
import Blueprint.Proofs.TypeExpr.Outline

/-!
# Signatures of methods

The methods of a port are told apart by one text, the name of the method followed by the types of
its parameters in parentheses.  `signature_eq_iff` says what two methods with one such text have in
common: the name and the displayed types, if the names inside the types are dotted identifiers.  The
name of the method may be any text, with parentheses and commas of its own, because the parentheses
of the types are balanced and the list is therefore found from the right.

Documents give all methods of a port without variables of their own the same scope.  There the
displayed type determines the type, so that the rule on repeated methods is exact:
`uniqueMethodSignature_iff_of_parse`.
-/

namespace Blueprint

/-- The types of the parameters of a method. -/
def Method.paramTypes (m : Method) : List TypeExpr :=
  m.params.map Parameter.type

namespace Rule

open Blueprint.Kotlin (HasDottedNames)
open Blueprint.TypeExpr (displayAll Readable)

variable {m m' : Method}

/-! ## One text for the name and the types -/

lemma toList_signature (m : Method) :
    (signature m).toList = (m.name.toList ++ '(' :: (displayAll m.paramTypes).toList) ++ [')'] := by
  have hdisplay : displayAll m.paramTypes =
      ", ".intercalate (m.params.map fun p => p.type.display) := by
    rw [TypeExpr.displayAll_eq_intercalate, Method.paramTypes, List.map_map]
    rfl
  rw [signature, ← hdisplay]
  simp

lemma signature_eq_iff_displayAll (hm : ∀ t ∈ m.paramTypes, HasDottedNames t)
    (hm' : ∀ t ∈ m'.paramTypes, HasDottedNames t) :
    signature m = signature m' ↔
      m.name = m'.name ∧ displayAll m.paramTypes = displayAll m'.paramTypes := by
  have hbalanced : ∀ {ts : List TypeExpr}, (∀ t ∈ ts, HasDottedNames t) →
      TypeExpr.Balanced (displayAll ts).toList := fun h =>
    TypeExpr.balanced_displayAll fun t ht => TypeExpr.balanced_display (h t ht)
  rw [← String.toList_inj, toList_signature, toList_signature]
  constructor
  · intro h
    obtain ⟨hname, htypes⟩ :=
      (hbalanced hm).append_inj (hbalanced hm') (List.append_cancel_right h)
    exact ⟨String.toList_inj.1 hname, String.toList_inj.1 htypes⟩
  · rintro ⟨hname, htypes⟩
    rw [hname, htypes]

/-- A signature stands for one name and one list of displayed types. -/
lemma signature_eq_iff (hm : ∀ t ∈ m.paramTypes, HasDottedNames t)
    (hm' : ∀ t ∈ m'.paramTypes, HasDottedNames t) :
    signature m = signature m' ↔ m.name = m'.name ∧
      m.paramTypes.map TypeExpr.display = m'.paramTypes.map TypeExpr.display := by
  rw [signature_eq_iff_displayAll hm hm']
  refine and_congr_right fun _ => ⟨TypeExpr.map_display_eq_of_displayAll_eq hm hm', fun h => ?_⟩
  rw [TypeExpr.displayAll_eq_intercalate, TypeExpr.displayAll_eq_intercalate, h]

/-- In one scope a signature stands for one name and one list of types. -/
lemma signature_eq_iff_of_readable {scope : List String} (hm : ∀ t ∈ m.paramTypes, Readable scope t)
    (hm' : ∀ t ∈ m'.paramTypes, Readable scope t) :
    signature m = signature m' ↔ m.name = m'.name ∧ m.paramTypes = m'.paramTypes := by
  have hdotted : ∀ t ∈ m.paramTypes, HasDottedNames t := fun t ht => (hm t ht).hasDottedNames
  have hdotted' : ∀ t ∈ m'.paramTypes, HasDottedNames t := fun t ht => (hm' t ht).hasDottedNames
  rw [signature_eq_iff_displayAll hdotted hdotted']
  refine and_congr_right fun _ => ⟨fun h => ?_, fun h => by rw [h]⟩
  exact TypeExpr.Readable.eq_of_map_outline_eq hm hm'
    (TypeExpr.outlines_eq_of_displayAll_eq hdotted hdotted' h)

/-! ## When a repeated method is reported -/

lemma readable_paramTypes_of_parse {text : List Char} {u : SourceUnit}
    (h : Document.parse text = .ok u) {p : Port} (hp : p ∈ u.ports) (hm : m ∈ p.methods) :
    ∀ t ∈ m.paramTypes, Readable (variableNames p.typeParams ++ variableNames m.typeParams) t := by
  rw [Method.paramTypes, List.forall_mem_map]
  exact Document.readable_of_parse h p hp m hm

lemma uniqueMethodSignature_iff {identifier : Pattern} {p : Port} :
    (∃ v ∈ checkPort identifier p, v.rule = .uniqueMethodSignature) ↔
      ¬ (p.methods.map signature).Nodup := by
  have hcount : (checkPort identifier p).countP (·.rule = .uniqueMethodSignature) =
      repeatCount (p.methods.map signature) := by
    rw [countP_checkPort (by decide), if_pos rfl]
  rw [← repeatCount_eq_zero_iff, ← hcount, List.countP_eq_zero]
  simp

/-- **A repeated method is one with the name and the types of another.**  In a port that was read
from a document and whose methods have no variables of their own, the rule on signatures is broken
exactly if two methods have the same name and the same parameter types, whatever the names are.  In
other words, the signature identifies the name and the types. -/
theorem uniqueMethodSignature_iff_of_parse {text : List Char} {u : SourceUnit}
    (h : Document.parse text = .ok u) {p : Port} (hp : p ∈ u.ports)
    (hparams : ∀ m ∈ p.methods, m.typeParams = []) :
    (∀ identifier, (∃ v ∈ checkPort identifier p, v.rule = .uniqueMethodSignature) ↔
        ∃ (i j : Nat) (m m' : Method), i < j ∧ p.methods[i]? = some m ∧
          p.methods[j]? = some m' ∧ m.name = m'.name ∧ m.paramTypes = m'.paramTypes) ∧
      ∀ m ∈ p.methods, ∀ m' ∈ p.methods,
        signature m = signature m' ↔ m.name = m'.name ∧ m.paramTypes = m'.paramTypes := by
  have hreadable : ∀ m ∈ p.methods, ∀ t ∈ m.paramTypes,
      Readable (variableNames p.typeParams) t := by
    intro m hm
    simpa [hparams m hm, variableNames] using readable_paramTypes_of_parse h hp hm
  have hexact : ∀ m ∈ p.methods, ∀ m' ∈ p.methods,
      signature m = signature m' ↔ m.name = m'.name ∧ m.paramTypes = m'.paramTypes :=
    fun m hm m' hm' => signature_eq_iff_of_readable (hreadable m hm) (hreadable m' hm')
  refine ⟨fun identifier => ?_, hexact⟩
  have hkeys : (p.methods.map signature).Nodup ↔
      (p.methods.map fun m => (m.name, m.paramTypes)).Nodup :=
    nodup_map_congr fun m hm m' hm' => by rw [hexact m hm m' hm', Prod.mk.injEq]
  rw [uniqueMethodSignature_iff, hkeys, not_nodup_map_iff]
  simp only [Prod.mk.injEq]

/-- A method whose name holds a parenthesis, and two that differ in the names of their parameters
only, of which the second is reported. -/
theorem uniqueMethodSignature_iff_of_parse_methods :
    let text := "[[ports]]\nname = \"P\"\n[[ports.methods]]\nname = \"f(A\"\n" ++
      "[[ports.methods]]\nname = \"f\"\n[[ports.methods.params]]\nname = \"a\"\ntype = \"A\"\n" ++
      "[[ports.methods]]\nname = \"f\"\n[[ports.methods.params]]\nname = \"b\"\ntype = \"A\"\n"
    let p : Port :=
      { name := "P"
        methods := [{ name := "f(A" }, { name := "f", params := [⟨"a", .named "A" [], none⟩] },
          { name := "f", params := [⟨"b", .named "A" [], none⟩] }] }
    Document.parse text.toList = .ok { ports := [p] } ∧
      ∃ v ∈ checkPort .empty p, v.rule = .uniqueMethodSignature := by
  intro text p
  have hparse : Document.parse text.toList = .ok { ports := [p] } :=
    eq_ok_of_toOption (by decide +kernel)
  refine ⟨hparse, ((uniqueMethodSignature_iff_of_parse hparse (by simp) (by simp [p])).1 _).2 ?_⟩
  exact ⟨1, 2, _, _, by decide, rfl, rfl, rfl, rfl⟩

end Rule

end Blueprint
