import Blueprint.Kotlin.File
import Blueprint.Proofs.Kotlin.NamePlan
import Blueprint.Proofs.Kotlin.Spelling

/-!
# Imports of a file

The name plan of a file is made from the types that its declarations mention.  The writer walks the
same declarations on its own.  The main result `declarations_spell_mentioned_names` says that the
two walks agree: the declarations spell exactly the names that the plan has seen, so no import is
missing and none is idle.

For each kind of declaration a lemma says that its lines spell the names of the types it mentions
(`linesCompose_lines` puts them together); everything about texts and lines is in `LinesCompose`.
The types of overridden methods are not in the document: they come from a port by substitution,
which keeps types `Unbounded`.

One kind of import has no use.  A declaration may have a dotted name, such as `x.Y` in a file
without a package; its path then seems to lie in another package and is imported
(`imports_of_dotted_declaration`).
-/

namespace Blueprint

namespace Kotlin

variable (layout : Layout)

/-! ## Declarations -/

section Declarations

variable {typeParams : List TypeParameter} {properties : List Property}

lemma linesCompose_recordLines (keyword name conformance : String)
    (hbounds : ∀ bound ∈ boundsOf typeParams, Unbounded bound)
    (hproperties : ∀ t ∈ properties.map Property.type, Unbounded t) :
    LinesCompose
      (fun plan => recordLines plan layout keyword name typeParams properties conformance)
      (namesIn (boundsOf typeParams ++ properties.map Property.type)) := by
  let keyword' := if properties.isEmpty then "class" else keyword
  have hhead := (composes_genericClause hbounds).fixed_append (keyword' ++ " " ++ escape name)
  have htail := (composes_whereClause hbounds).fixed_append conformance
  have hentries : ∀ p ∈ properties, Composes (propertyText · p) (writtenNames p.type) :=
    fun p hp => composes_propertyText (hproperties p.type (List.mem_map_of_mem hp))
  have hclass := LinesCompose.parameterList layout hhead hentries htail
  refine ((LinesCompose.fixed _).append hclass).congr fun name => ?_
  have hbound := @mem_boundNames typeParams name
  simp only [List.nil_append, List.mem_append, List.flatMap_append, List.flatMap_map, ← hbound]
  tauto

lemma linesCompose_variantLines (conformance : String) {v : Variant}
    (hbounds : ∀ bound ∈ boundsOf typeParams, Unbounded bound)
    (hproperties : ∀ t ∈ v.properties.map Property.type, Unbounded t) :
    LinesCompose (fun plan => variantLines plan layout typeParams conformance v)
      (namesIn (boundsOf typeParams ++ v.properties.map Property.type)) := by
  unfold variantLines
  by_cases hobject : (v.properties.isEmpty && typeParams.isEmpty) = true
  · simp only [if_pos hobject]
    rw [Bool.and_eq_true, List.isEmpty_iff, List.isEmpty_iff] at hobject
    rw [hobject.1, hobject.2]
    exact .fixed _
  · simp only [if_neg hobject]
    exact linesCompose_recordLines layout dataKeyword v.name conformance hbounds hproperties

/-- The head of a sealed hierarchy spells the bounds, whether it has variants or not. -/
lemma linesCompose_sealedHierarchy (name conformance : String) {variants : List Variant}
    (hbounds : ∀ bound ∈ boundsOf typeParams, Unbounded bound)
    (hproperties : ∀ v ∈ variants, ∀ t ∈ v.properties.map Property.type, Unbounded t) :
    LinesCompose (fun plan => separated
        ([line ("sealed interface " ++ escape name ++ genericClause plan typeParams ++
          whereClause plan typeParams)] ::
          variants.map (variantLines plan layout typeParams conformance)))
      (namesIn (boundsOf typeParams ++
        variants.flatMap fun v => v.properties.map Property.type)) := by
  -- the blocks: the head, then the variants
  let block (plan : NamePlan) : Option Variant → List Line
    | none => [line ("sealed interface " ++ escape name ++ genericClause plan typeParams ++
        whereClause plan typeParams)]
    | some v => variantLines plan layout typeParams conformance v
  let names : Option Variant → List String
    | none => inlineBoundNames typeParams ++ whereBoundNames typeParams
    | some v => namesIn (boundsOf typeParams ++ v.properties.map Property.type)
  have hblocks : ∀ b ∈ none :: variants.map some, LinesCompose (block · b) (names b) := by
    intro b hb
    cases b with
    | none =>
      have hhead := (composes_genericClause hbounds).fixed_append
        ("sealed interface " ++ escape name)
      exact .line (hhead.append (composes_whereClause hbounds))
    | some v =>
      have hv : v ∈ variants := by simpa using hb
      exact linesCompose_variantLines layout conformance hbounds (hproperties v hv)
  refine ((LinesCompose.separated hblocks).of_eq fun plan => ?_).congr fun name => ?_
  · rw [List.map_cons, List.map_map]
    rfl
  · have hbound := @mem_boundNames typeParams name
    simp only [names, List.flatMap_cons, List.flatMap_map, List.mem_append, List.mem_flatMap,
      List.flatMap_append, hbound]
    grind

lemma linesCompose_modelLines {m : Model} (h : ∀ t ∈ m.referencedTypes, Unbounded t) :
    LinesCompose (fun plan => modelLines plan layout m) (namesIn m.referencedTypes) := by
  obtain ⟨name, package, shape⟩ := m
  cases shape with
  | valueObject typeParams properties wrapper =>
    refine linesCompose_recordLines layout _ name "" (fun t ht => ?_) fun t ht => ?_
    · exact h t (List.mem_append_left _ ht)
    · exact h t (List.mem_append_right _ ht)
  | entity typeParams properties =>
    refine linesCompose_recordLines layout _ name "" (fun t ht => ?_) fun t ht => ?_
    · exact h t (List.mem_append_left _ ht)
    · exact h t (List.mem_append_right _ ht)
  | sealedHierarchy typeParams variants =>
    refine linesCompose_sealedHierarchy layout name _ (fun t ht => ?_) fun v hv t ht => ?_
    · exact h t (List.mem_append_left _ ht)
    · exact h t (List.mem_append_right _ (List.mem_flatMap.2 ⟨v, hv, ht⟩))
  | enum values =>
    cases values with
    | nil => exact .fixed _
    | cons value rest => exact .fixed _

end Declarations

lemma linesCompose_methodLines (mode : MemberMode) {m : Method}
    (h : ∀ t ∈ m.signatureTypes, Unbounded t) :
    LinesCompose (fun plan => methodLines plan mode m) (namesIn m.signatureTypes) := by
  have hhead := composes_methodHead (mode = .overriding) h
  have hbody : LinesCompose (fun plan =>
      if mode = .inInterface ∧ m.isAbstract then [line (methodHead plan (mode = .overriding) m)]
      else line (methodHead plan (mode = .overriding) m ++ " \x7b") ::
        indented (bodyLines m.body?) ++ [line "\x7d"]) (namesIn m.signatureTypes) := by
    by_cases habstract : mode = .inInterface ∧ m.isAbstract
    · simpa only [if_pos habstract] using LinesCompose.line hhead
    · simp only [if_neg habstract]
      exact ((LinesCompose.line (hhead.append_fixed " \x7b")).append
        (.fixed (indented (bodyLines m.body?) ++ [line "\x7d"]))).congr (by simp)
  exact (LinesCompose.fixed _).append hbody

/-- The methods of a class or interface, up to the closing brace, if there are any. -/
lemma linesCompose_members (mode : MemberMode) {methods : List Method}
    (h : ∀ m ∈ methods, ∀ t ∈ m.signatureTypes, Unbounded t) :
    LinesCompose (fun plan =>
        if methods.isEmpty then [] else memberLines plan mode methods ++ [line "\x7d"])
      (namesIn (methods.flatMap Method.signatureTypes)) := by
  by_cases hempty : methods.isEmpty = true
  · obtain rfl := List.isEmpty_iff.1 hempty
    exact .fixed []
  · simp only [if_neg hempty]
    have hmethods := LinesCompose.separated fun m hm => linesCompose_methodLines mode (h m hm)
    refine (hmethods.indented.append (.fixed [line "\x7d"])).congr ?_
    simp [namesIn, List.flatMap_assoc]

lemma linesCompose_portLines {p : Port} (h : ∀ t ∈ p.referencedTypes, Unbounded t) :
    LinesCompose (fun plan => portLines plan p) (namesIn p.referencedTypes) := by
  have hbounds : ∀ bound ∈ boundsOf p.typeParams, Unbounded bound := fun bound hbound =>
    h bound (by simp [Port.referencedTypes, hbound])
  have hsupers : Composes (fun plan => if p.superTypes.isEmpty then ""
      else " : " ++ ", ".intercalate (typeTexts plan p.superTypes)) (namesIn p.superTypes) := by
    by_cases hempty : p.superTypes.isEmpty = true
    · have hnone : p.superTypes = [] := List.isEmpty_iff.1 hempty
      simp only [hnone]
      exact .fixed ""
    · simp only [if_neg hempty, typeTexts_eq_map]
      refine (Composes.intercalate ", " fun t ht => ?_).fixed_append " : "
      exact (h t (by simp [Port.referencedTypes, ht])).composes
  have hmembers := linesCompose_members .inInterface fun m hm t ht =>
    h t (List.mem_append_right _ (List.mem_flatMap.2 ⟨m, hm, ht⟩))
  have hhead := (((composes_genericClause hbounds).fixed_append
    ("interface " ++ escape p.name)).append hsupers).append (composes_whereClause hbounds)
  have hopen := LinesCompose.line (hhead.append_fixed (if p.methods.isEmpty then "" else " \x7b"))
  refine ((hopen.append hmembers).of_eq fun plan => ?_).congr fun name => ?_
  · unfold portLines
    by_cases hempty : p.methods.isEmpty = true
    · simp [hempty]
    · simp [hempty]
  · have hbound := @mem_boundNames p.typeParams name
    simp only [Port.referencedTypes, List.mem_append, List.flatMap_append, ← hbound]
    tauto

/-- The entry of a constructor parameter, whatever stands before it. -/
lemma composes_entry (start : String) {params : List Parameter}
    (h : ∀ t ∈ params.map Parameter.type, Unbounded t) :
    ∀ p ∈ params, Composes (fun plan => start ++ parameterText plan p) (writtenNames p.type) :=
  fun p hp => (composes_parameterText (h p.type (List.mem_map_of_mem hp))).fixed_append start

lemma linesCompose_adapterLines {a : Adapter} {port? : Option Port}
    (himplements : Unbounded a.implements)
    (hparams : ∀ t ∈ a.constructorParams.map Parameter.type, Unbounded t)
    (hoverrides : ∀ m ∈ a.overrides port?, ∀ t ∈ m.signatureTypes, Unbounded t) :
    LinesCompose (fun plan => adapterLines plan layout a port?)
      (namesIn (a.implements :: a.constructorParams.map Parameter.type ++
        (a.overrides port?).flatMap Method.signatureTypes)) := by
  let brace := if (a.overrides port?).isEmpty then "" else " \x7b"
  have htail := (himplements.composes.fixed_append " : ").append_fixed brace
  have hentries := composes_entry "private val " hparams
  have hclass := LinesCompose.parameterList layout (Composes.fixed ("class " ++ escape a.name))
    hentries htail
  have hmembers := linesCompose_members .overriding hoverrides
  have hhead : LinesCompose (fun plan =>
      if (a.constructorParams.map fun p => "private val " ++ parameterText plan p).isEmpty then
        [line ("class " ++ escape a.name ++ (" : " ++ typeText plan a.implements ++ brace))]
      else parameterList layout ("class " ++ escape a.name)
        (a.constructorParams.map fun p => "private val " ++ parameterText plan p)
        (" : " ++ typeText plan a.implements ++ brace))
      (a.constructorParams.flatMap (fun p => writtenNames p.type) ++
        writtenNames a.implements) := by
    by_cases hempty : a.constructorParams = []
    · simpa [hempty] using LinesCompose.line (htail.fixed_append ("class " ++ escape a.name))
    · simpa [hempty] using hclass
  refine (hhead.append hmembers).congr fun name => ?_
  simp only [List.mem_append, List.flatMap_append, List.flatMap_cons, List.flatMap_map]
  tauto

lemma linesCompose_serviceLines {s : Service}
    (hparams : ∀ t ∈ s.constructorParams.map Parameter.type, Unbounded t)
    (hmethods : ∀ m ∈ s.methods, ∀ t ∈ m.signatureTypes, Unbounded t) :
    LinesCompose (fun plan => serviceLines plan layout s)
      (namesIn (s.constructorParams.map Parameter.type ++
        s.methods.flatMap Method.signatureTypes)) := by
  have hclass := LinesCompose.parameterList layout (Composes.fixed ("class " ++ escape s.name))
    (composes_entry "val " hparams) (.fixed (if s.methods.isEmpty then "" else " \x7b"))
  have hmembers := linesCompose_members .inClass hmethods
  refine (((LinesCompose.fixed _).append hclass).append hmembers).congr fun name => ?_
  simp [namesIn, List.flatMap_map]

/-- The types that a piece mentions.  A whole unit brings its own name plan, so under any plan it
mentions none. -/
def Piece.types : Piece → List TypeExpr
  | .model m => m.referencedTypes
  | .port p => p.referencedTypes
  | .adapter a port? => a.implements :: a.constructorParams.map Parameter.type ++
      (a.overrides port?).flatMap Method.signatureTypes
  | .service s => s.constructorParams.map Parameter.type ++ s.methods.flatMap Method.signatureTypes
  | .unit _ => []

/-- The lines of a piece spell exactly the names of the types that it mentions. -/
lemma linesCompose_lines {d : Piece} (h : ∀ t ∈ d.types, Unbounded t) :
    LinesCompose (fun plan => d.lines plan layout) (namesIn d.types) := by
  cases d with
  | model m => exact linesCompose_modelLines layout h
  | port p => exact linesCompose_portLines h
  | adapter a port? =>
    refine linesCompose_adapterLines layout (h _ ?_) (fun t ht => h t ?_) fun m hm t ht => h t ?_
    · simp [Piece.types]
    · simp only [Piece.types, List.mem_append, List.mem_cons]
      tauto
    · exact List.mem_append_right _ (List.mem_flatMap.2 ⟨m, hm, ht⟩)
  | service s =>
    refine linesCompose_serviceLines layout (fun t ht => h t ?_) fun m hm t ht => h t ?_
    · exact List.mem_append_left _ ht
    · exact List.mem_append_right _ (List.mem_flatMap.2 ⟨m, hm, ht⟩)
  | unit u => exact .fixed _

/-- A line of the piece spells the name, at the same place under every plan. -/
def Piece.Spells (d : Piece) (name : String) : Prop :=
  ∃ (index : Nat) (before after : List Fragment), ∀ plan,
    (d.lines plan layout)[index]?.map Line.text =
      some (fill plan before ++ plan.spelling name ++ fill plan after)

/-! ## Overridden methods -/

lemma Unbounded.makeNullable {t : TypeExpr} (h : Unbounded t) : Unbounded t.makeNullable := by
  unfold TypeExpr.makeNullable
  split
  · exact h
  · exact .nullable h

lemma Unbounded.substitute {bindings : TypeExpr.Bindings} {t : TypeExpr} (h : Unbounded t)
    (hbindings : ∀ name value, bindings name = some value → Unbounded value) :
    Unbounded (t.substitute bindings) := by
  induction h with
  | primitive p => exact .primitive p
  | named hargs ih =>
    rw [TypeExpr.substitute, TypeExpr.substituteAll_eq_map]
    exact .named (by simpa using ih)
  | parameter name =>
    rw [TypeExpr.substitute]
    cases hvalue : bindings name with
    | none => exact .parameter name
    | some value => exact hbindings name value hvalue
  | nullable h ih => exact ih.makeNullable
  | list h ih => exact .list ih
  | set h ih => exact .set ih
  | map hk hv ihk ihv => exact .map ihk ihv
  | function hparams hresult ihparams ihresult =>
    rw [TypeExpr.substitute, TypeExpr.substituteAll_eq_map]
    exact .function (by simpa using ihparams) ihresult

/-- The type variables of a port are bound to arguments of the implemented type. -/
lemma unbounded_of_bindings {p : Port} {implemented value : TypeExpr} {name : String}
    (h : Unbounded implemented) (hvalue : p.bindings implemented name = some value) :
    Unbounded value := by
  unfold Port.bindings at hvalue
  cases h with
  | @named head args hargs =>
    simp only [TypeExpr.Bindings.ofPairs, Option.map_eq_some_iff] at hvalue
    obtain ⟨pair, hpair, rfl⟩ := hvalue
    have hmem := List.mem_reverse.1 (List.mem_of_find?_eq_some hpair)
    exact hargs pair.2 (List.of_mem_zip hmem).2
  | _ => simp [TypeExpr.Bindings.ofPairs] at hvalue

/-- What an adapter overrides has unbounded types if the port and the implemented type have. -/
lemma unbounded_overrides {p : Port} {implemented : TypeExpr} (himplemented : Unbounded implemented)
    (hport : ∀ t ∈ p.referencedTypes, Unbounded t) :
    ∀ m ∈ p.overrides implemented, ∀ t ∈ m.signatureTypes, Unbounded t := by
  intro m hm t ht
  obtain ⟨original, horiginal, rfl⟩ := List.mem_map.1 hm
  have hbindings : ∀ name value, p.bindings implemented name = some value → Unbounded value :=
    fun name value => unbounded_of_bindings himplemented
  have hsignature : ∀ t ∈ original.signatureTypes, Unbounded t := fun t ht =>
    hport t (List.mem_append_right _ (List.mem_flatMap.2 ⟨original, horiginal, ht⟩))
  simp only [Method.signatureTypes, Method.override, List.map_map, List.mem_append, List.mem_map,
    List.mem_singleton] at ht
  rcases ht with (hbound | ⟨param, hparam, rfl⟩) | rfl
  · exact hsignature t (by simp [Method.signatureTypes, hbound])
  · refine (hsignature param.type ?_).substitute hbindings
    have hmem : param.type ∈ original.params.map Parameter.type := List.mem_map_of_mem hparam
    simp [Method.signatureTypes, hmem]
  · exact (hsignature original.result (by simp [Method.signatureTypes])).substitute hbindings

end Kotlin

/-! ## Files -/

namespace SourceUnit

/-- The declarations of a unit, each an adapter with the port that it implements. -/
def pieces (u : SourceUnit) : List Kotlin.Piece :=
  u.models.map .model ++ u.ports.map .port ++
    u.adapters.map (fun a => .adapter a (u.portOf? a)) ++ u.services.map .service

/-- The types that stand in the declarations of a unit. -/
def ownTypes (u : SourceUnit) : List TypeExpr :=
  u.models.flatMap Model.referencedTypes ++ u.ports.flatMap Port.referencedTypes ++
    u.adapters.flatMap (fun a => a.implements :: a.constructorParams.map Parameter.type) ++
    u.services.flatMap fun s =>
      s.constructorParams.map Parameter.type ++ s.methods.flatMap Method.signatureTypes

lemma mentionedTypes_eq (u : SourceUnit) :
    u.mentionedTypes = u.pieces.flatMap Kotlin.Piece.types := by
  simp only [mentionedTypes, pieces, List.flatMap_append, List.flatMap_map]
  rfl

/-- Also the types of overridden methods are unbounded: they come from those of a port. -/
lemma unbounded_of_ownTypes {u : SourceUnit} (h : ∀ t ∈ u.ownTypes, Kotlin.Unbounded t) :
    ∀ d ∈ u.pieces, ∀ t ∈ d.types, Kotlin.Unbounded t := by
  have hports : ∀ p ∈ u.ports, ∀ t ∈ p.referencedTypes, Kotlin.Unbounded t := by
    intro p hp t ht
    have hmem : t ∈ u.ports.flatMap Port.referencedTypes := List.mem_flatMap.2 ⟨p, hp, ht⟩
    exact h t (by simp only [ownTypes, List.mem_append, hmem, true_or, or_true])
  intro d hd t ht
  simp only [pieces, List.mem_append, List.mem_map] at hd
  rcases hd with ((⟨m, hm, rfl⟩ | ⟨p, hp, rfl⟩) | ⟨a, ha, rfl⟩) | ⟨s, hs, rfl⟩
  · have hmem : t ∈ u.models.flatMap Model.referencedTypes := List.mem_flatMap.2 ⟨m, hm, ht⟩
    exact h t (by simp only [ownTypes, List.mem_append, hmem, true_or])
  · exact hports p hp t ht
  · have hown : ∀ t ∈ a.implements :: a.constructorParams.map Parameter.type,
        Kotlin.Unbounded t := by
      intro t ht
      have hmem : t ∈ u.adapters.flatMap fun a =>
          a.implements :: a.constructorParams.map Parameter.type := List.mem_flatMap.2 ⟨a, ha, ht⟩
      exact h t (by simp only [ownTypes, List.mem_append, hmem, true_or, or_true])
    rcases List.mem_append.1 ht with ht | ht
    · exact hown t ht
    · obtain ⟨m, hm, ht⟩ := List.mem_flatMap.1 ht
      cases hport : u.portOf? a with
      | none => simp [hport, Adapter.overrides] at hm
      | some p =>
        rw [hport] at hm
        obtain ⟨name, -, hfind⟩ := Option.bind_eq_some_iff.1 hport
        have hp : p ∈ u.ports := List.mem_of_find?_eq_some hfind
        exact Kotlin.unbounded_overrides (hown a.implements List.mem_cons_self) (hports p hp) m hm
          t ht
  · have hmem : t ∈ u.services.flatMap fun s => s.constructorParams.map Parameter.type ++
        s.methods.flatMap Method.signatureTypes := List.mem_flatMap.2 ⟨s, hs, ht⟩
    exact h t (by simp only [ownTypes, List.mem_append, hmem, or_true])

/-- A path is imported for a name that is spelled by its last segment, or for a declaration with a
dotted name. -/
lemma exists_of_mem_imports {u : SourceUnit} {path : String} (h : path ∈ u.imports) :
    (∃ name ∈ u.mentionedTypes.flatMap Kotlin.writtenNames, u.namePlan.resolve name = path ∧
        u.namePlan.spelling name = Kotlin.escape (DottedName.simple path)) ∨
      ∃ name ∈ u.topLevelNames, (DottedName.package? name).isSome ∧
        DottedName.qualify u.package name = path := by
  obtain ⟨hpath, howner, hforeign⟩ := u.namePlan.mem_imports.1 h
  rcases (Kotlin.mem_paths_ofTypes _ _ _).1 hpath with ⟨name, hname, rfl⟩ | ⟨name, hname, rfl⟩
  · refine Or.inr ⟨name, hname, ?_, rfl⟩
    -- a bare name would lie in the unit's own package
    cases hbare : DottedName.package? name with
    | none => exact absurd hforeign (u.namePlan.not_isForeign_qualify hbare)
    | some package => rfl
  · refine Or.inl ⟨name, hname, rfl, ?_⟩
    have hfull : u.namePlan.inFull (u.namePlan.resolve name) = false := by
      have howner' : u.namePlan.isOwner (u.namePlan.resolve name) = true := howner
      simp [Kotlin.NamePlan.inFull, howner']
    have hsimple := Kotlin.simple_resolveName u.package u.topLevelNames name
    rw [Kotlin.NamePlan.spelling, hfull, hsimple]
    rfl

end SourceUnit

namespace Kotlin

variable (layout : Layout)

lemma declarationBlocks_eq_map (plan : NamePlan) (u : SourceUnit) :
    declarationBlocks plan layout u = u.pieces.map (Piece.lines plan layout) := by
  simp only [declarationBlocks, SourceUnit.pieces, List.map_append, List.map_map]
  rfl

/-- **Files import what they spell.**  Let `names` be collected from the types that a unit mentions.
The file consists of its header and of the declarations under the unit's name plan.  A declaration
looks the same under every plan that spells `names` in the same way, so it spells no other name;
each of `names` is spelled in some declaration; and each import is that of a name which is spelled
by its last segment, apart from declarations that have dotted names themselves. -/
theorem declarations_spell_mentioned_names (u : SourceUnit)
    (h : ∀ t ∈ u.ownTypes, Unbounded t) :
    let names := u.mentionedTypes.flatMap writtenNames
    fileBlocks layout u = (if layout.fileHeader then headerBlocks u else []) ++
        u.pieces.map (Piece.lines u.namePlan layout) ∧
      (∀ plan : NamePlan, (∀ name ∈ names, plan.spelling name = u.namePlan.spelling name) →
        ∀ d ∈ u.pieces, d.text plan layout = d.text u.namePlan layout) ∧
      (∀ name ∈ names, ∃ d ∈ u.pieces, d.Spells layout name) ∧
      ∀ path ∈ u.imports,
        (∃ name ∈ names, u.namePlan.resolve name = path ∧
            u.namePlan.spelling name = escape (DottedName.simple path)) ∨
          ∃ name ∈ u.topLevelNames, (DottedName.package? name).isSome ∧
            DottedName.qualify u.package name = path := by
  intro names
  have hnames : names = u.pieces.flatMap fun d => namesIn d.types := by
    rw [← List.flatMap_assoc, ← u.mentionedTypes_eq]
  have hcompose : ∀ d ∈ u.pieces,
      LinesCompose (fun plan => d.lines plan layout) (namesIn d.types) := fun d hd =>
    linesCompose_lines layout (SourceUnit.unbounded_of_ownTypes h d hd)
  refine ⟨?_, ?_, ?_, fun path hpath => SourceUnit.exists_of_mem_imports hpath⟩
  · rw [fileBlocks, declarationBlocks_eq_map]
  · intro plan hagree d hd
    have hlines : d.lines plan layout = d.lines u.namePlan layout := by
      refine (hcompose d hd).eq_of_agree fun name hname => hagree name ?_
      rw [hnames]
      exact List.mem_flatMap.2 ⟨d, hd, hname⟩
    rw [Piece.text, Piece.text, hlines]
  · intro name hname
    rw [hnames] at hname
    obtain ⟨d, hd, hname⟩ := List.mem_flatMap.1 hname
    exact ⟨d, hd, (hcompose d hd).exists_place hname⟩

/-- An adapter of a generic port spells a name that stands only in its own type argument; the name
shows once more in the method that it overrides, and is imported. -/
theorem declarations_spell_mentioned_names_adapter :
    let port : Port :=
      { name := "Repo", typeParams := [⟨"T", []⟩],
        methods := [{ name := "find", params := [⟨"id", .named "UUID" [], none⟩],
                      result := .named "IO" [.parameter "T" []] }] }
    let adapter : Adapter :=
      { name := "Users", implements := .named "Repo" [.named "acme.User" []] }
    let u : SourceUnit := { package := "shop", ports := [port], adapters := [adapter] }
    (∀ t ∈ u.ownTypes, Unbounded t) ∧ u.imports = ["acme.User", "java.util.UUID"] ∧
      (Piece.adapter adapter (some port)).text u.namePlan {} =
        "class Users : Repo<User> \x7b\n    override suspend fun find(id: UUID): User \x7b\n" ++
          "        TODO(\"Not yet migrated\")\n    \x7d\n\x7d\n" ∧
      ∃ d ∈ u.pieces, d.Spells {} "acme.User" := by
  intro port adapter u
  have hnamed : ∀ name, Unbounded (.named name []) := fun name => .named (by simp)
  have hwrapped : ∀ name {t : TypeExpr}, Unbounded t → Unbounded (.named name [t]) :=
    fun name t ht => .named (by simpa using ht)
  have htypes : u.ownTypes = [.named "UUID" [], .named "IO" [.parameter "T" []],
      .named "Repo" [.named "acme.User" []]] := by decide +kernel
  have hunbounded : ∀ t ∈ u.ownTypes, Unbounded t := by
    rw [htypes]
    simp only [List.forall_mem_cons]
    exact ⟨hnamed _, hwrapped _ (.parameter "T"), hwrapped _ (hnamed _), by simp⟩
  refine ⟨hunbounded, by decide +kernel, by decide +kernel, ?_⟩
  exact (declarations_spell_mentioned_names {} u hunbounded).2.2.1 "acme.User" (by decide +kernel)

/-- A declaration with a dotted name in a file without a package is imported by the file itself,
though nothing in the file spells a name. -/
theorem imports_of_dotted_declaration :
    let u : SourceUnit := { models := [⟨"x.Y", "", .entity [] []⟩] }
    u.mentionedTypes.flatMap writtenNames = [] ∧ u.imports = ["x.Y"] ∧
      renderUnit {} u = "import x.Y\n\nclass x.Y()\n" := by
  decide +kernel

end Kotlin

end Blueprint
