import Blueprint.Kotlin.File
import Blueprint.Proofs.Kotlin.NamePlan
import Blueprint.Proofs.Kotlin.Override
import Mathlib.Data.List.Find

/-!
# The port that an adapter implements

A class of an adapter overrides the methods of a port of the unit.  Which port that is, the writer
decides by the last segment of the implemented type alone; the supertype in the head of the class is
spelled by its path.  `Implements` says that the two agree, and `implements_port_iff` says
when they do: whenever the implemented type is written without a package, and otherwise exactly if
the package is that of the file or that of the port.

So an adapter of a type from elsewhere overrides the methods of any port that happens to have the
same last segment (`override_of_foreign_path`).
-/

namespace Blueprint

namespace DottedName

lemma qualify_eq_simple_iff {package name other : String} :
    qualify package name = simple other ↔ package = "" ∧ name = simple other := by
  by_cases hpackage : package = ""
  · simp [hpackage]
  · rw [qualify_of_ne_empty hpackage]
    refine iff_of_false (fun heq => ?_) fun h => hpackage h.1
    have hdot : '.' ∉ (simple other).toList := package?_eq_none_iff.1 (package?_simple other)
    rw [← heq] at hdot
    simp at hdot

/-- A name with a package is its last segment qualified by that package and by no other. -/
lemma eq_qualify_simple_iff {package other name : String} (h : package? name = some package) :
    name = qualify other (simple name) ↔ package ≠ "" ∧ package = other := by
  constructor
  · intro hname
    have hpackage := package?_qualify other (package?_simple name)
    rw [← hname, h] at hpackage
    split at hpackage
    · cases hpackage
    · rename_i hother
      obtain rfl := Option.some.inj hpackage
      exact ⟨hother, rfl⟩
  · rintro ⟨hne, rfl⟩
    exact (qualify_simple h hne).symm

end DottedName

open DottedName (package? qualify simple)

namespace SourceUnit

/-- The path that the implemented type of an adapter resolves to, if it is a named type. -/
def implementedPath? (u : SourceUnit) (a : Adapter) : Option String :=
  match a.implements with
  | .named name _ => some (u.namePlan.resolve name)
  | _ => none

/-- The implemented type of the adapter denotes the port, by the name it has in its own package or
by the one it has in the file. -/
def Implements (u : SourceUnit) (a : Adapter) (p : Port) : Prop :=
  u.implementedPath? a = some p.qualifiedName ∨
    u.implementedPath? a = some (qualify u.package p.name)

instance (u : SourceUnit) (a : Adapter) (p : Port) : Decidable (u.Implements a p) :=
  inferInstanceAs (Decidable (_ ∨ _))

variable {u : SourceUnit} {a : Adapter} {p : Port}

/-- A last segment is never a qualified name, unless there is no package to qualify by. -/
lemma findPort?_simple (u : SourceUnit) (name : String) :
    u.findPort? (simple name) = u.ports.find? (·.name = simple name) := by
  refine List.find?_congr fun p _ => ?_
  rw [Bool.eq_iff_iff]
  simp only [Bool.or_eq_true, beq_iff_eq, decide_eq_true_eq, Port.qualifiedName,
    DottedName.qualify_eq_simple_iff]
  exact ⟨fun h => h.elim id And.right, Or.inl⟩

lemma portOf?_named {name : String} {args : List TypeExpr} (h : a.implements = .named name args) :
    u.portOf? a = u.ports.find? (·.name = simple name) := by
  rw [portOf?, h]
  exact u.findPort?_simple name

lemma name_of_portOf? {name : String} {args : List TypeExpr} (h : a.implements = .named name args)
    (hport : u.portOf? a = some p) : p ∈ u.ports ∧ p.name = simple name := by
  rw [portOf?_named h] at hport
  exact ⟨List.mem_of_find?_eq_some hport, by simpa using List.find?_some hport⟩

/-- A bare name denotes the declaration of the file, a dotted one what it says. -/
lemma implements_named_iff {name : String} {args : List TypeExpr}
    (h : a.implements = .named name args) (hport : u.portOf? a = some p) :
    u.Implements a p ↔
      ∀ package, package? name = some package →
        package ≠ "" ∧ (package = u.package ∨ package = p.package) := by
  obtain ⟨hp, hname⟩ := name_of_portOf? h hport
  have hpath : u.implementedPath? a = some (u.namePlan.resolve name) := by rw [implementedPath?, h]
  rw [Implements, hpath, Option.some.injEq, Option.some.injEq, Port.qualifiedName, hname]
  cases hpackage : package? name with
  | none =>
    have hdeclared : name ∈ u.topLevelNames := by
      have hmem : p.name ∈ u.ports.map Port.name := List.mem_map_of_mem hp
      rw [hname, DottedName.simple_of_bare hpackage] at hmem
      simp [topLevelNames, hmem]
    have hresolve : u.namePlan.resolve name = qualify u.package (simple name) := by
      show Kotlin.resolveName u.package u.topLevelNames name = _
      rw [Kotlin.resolveName, hpackage, if_neg (by simp), if_pos hdeclared,
        DottedName.simple_of_bare hpackage]
    simp [hresolve]
  | some package =>
    have hresolve : u.namePlan.resolve name = name := by
      simp [Kotlin.NamePlan.resolve, Kotlin.resolveName, hpackage]
    rw [hresolve, DottedName.eq_qualify_simple_iff hpackage,
      DottedName.eq_qualify_simple_iff hpackage]
    simp [← and_or_left, or_comm]

lemma adapterLines_mem_fileBlocks (layout : Kotlin.Layout) (ha : a ∈ u.adapters) :
    Kotlin.adapterLines u.namePlan layout a (u.portOf? a) ∈ Kotlin.fileBlocks layout u := by
  have hmem : Kotlin.adapterLines u.namePlan layout a (u.portOf? a) ∈
      u.adapters.map fun a => Kotlin.adapterLines u.namePlan layout a (u.portOf? a) :=
    List.mem_map_of_mem ha
  simp only [Kotlin.fileBlocks, Kotlin.declarationBlocks, List.mem_append, hmem, or_true, true_or]

end SourceUnit

open Kotlin in
/-- **Which port the members of an adapter come from.**  The class of an adapter overrides every
method of the first port of the unit with the last segment of the implemented type, and nothing if
there is no such port.  The implemented type denotes that port exactly if it is a named type that
has no package, or a package that is the file's or the port's. -/
theorem implements_port_iff (layout : Layout) {u : SourceUnit} {a : Adapter}
    (ha : a ∈ u.adapters) :
    adapterLines u.namePlan layout a (u.portOf? a) ∈ fileBlocks layout u ∧
      (∀ name args, a.implements = .named name args →
        u.portOf? a = u.ports.find? (·.name = simple name)) ∧
      (u.portOf? a = none → a.overrides (u.portOf? a) = []) ∧
      ∀ p, u.portOf? a = some p →
        (∀ m ∈ p.methods,
          (signatureLine u.namePlan .overriding (m.override (p.bindings a.implements))).deeper ∈
            adapterLines u.namePlan layout a (u.portOf? a)) ∧
        (u.Implements a p ↔ ∃ name args, a.implements = .named name args ∧
          ∀ package, package? name = some package →
            package ≠ "" ∧ (package = u.package ∨ package = p.package)) := by
  refine ⟨SourceUnit.adapterLines_mem_fileBlocks layout ha,
    fun name args => SourceUnit.portOf?_named, fun hport => by rw [hport, Adapter.overrides],
    fun p hport => ⟨fun m hm => ?_, ?_⟩⟩
  · rw [hport]
    have hoverride : m.override (p.bindings a.implements) ∈ a.overrides (some p) :=
      List.mem_map_of_mem hm
    exact signatureLine_mem_adapterLines hoverride
  · constructor
    · intro himplements
      cases himplemented : a.implements with
      | named name args =>
        exact ⟨name, args, rfl,
          (SourceUnit.implements_named_iff himplemented hport).1 himplements⟩
      | _ => simp [SourceUnit.Implements, SourceUnit.implementedPath?, himplemented] at himplements
    · rintro ⟨name, args, himplemented, hpackage⟩
      exact (SourceUnit.implements_named_iff himplemented hport).2 hpackage

/-- An adapter that writes the package of the file implements the port and overrides its method. -/
theorem implements_port_iff_qualified :
    let m : Method := { name := "find" }
    let p : Port := { name := "Repository", package := "com.acme", methods := [m] }
    let a : Adapter := { name := "Users", implements := .named "com.acme.Repository" [] }
    let u : SourceUnit := { package := "com.acme", ports := [p], adapters := [a] }
    a ∈ u.adapters ∧ u.portOf? a = some p ∧ u.Implements a p ∧
      (Kotlin.signatureLine u.namePlan .overriding (m.override (p.bindings a.implements))).deeper ∈
        Kotlin.adapterLines u.namePlan {} a (u.portOf? a) := by
  intro m p a u
  have ha : a ∈ u.adapters := by simp [u]
  have hport : u.portOf? a = some p := by decide +kernel
  obtain ⟨-, -, -, hmembers⟩ := implements_port_iff {} ha
  obtain ⟨hlines, himplements⟩ := hmembers p hport
  refine ⟨ha, hport, himplements.2 ⟨"com.acme.Repository", [], rfl, ?_⟩, hlines m (by simp [p])⟩
  intro package hpackage
  have hacme : package? "com.acme.Repository" = some "com.acme" := by decide +kernel
  obtain rfl := Option.some.inj (hacme.symm.trans hpackage)
  exact ⟨by decide, Or.inl rfl⟩

/-- An adapter of a type from another package overrides the method of a port with which it shares
only the last segment. -/
theorem override_of_foreign_path :
    let p : Port := { name := "Repository", package := "com.acme", methods := [{ name := "find" }] }
    let a : Adapter := { name := "Users", implements := .named "org.lib.Repository" [] }
    let u : SourceUnit := { package := "com.acme", ports := [p], adapters := [a] }
    u.portOf? a = some p ∧ u.implementedPath? a = some "org.lib.Repository" ∧ ¬ u.Implements a p ∧
      Kotlin.renderUnit {} u =
        "package com.acme\n\ninterface Repository \x7b\n    fun find()\n\x7d\n\n" ++
          "class Users : org.lib.Repository \x7b\n    override fun find() \x7b\n" ++
          "        TODO(\"Not yet migrated\")\n    \x7d\n\x7d\n" := by
  decide +kernel

end Blueprint
