import Blueprint.Document.Basic
import Blueprint.Proofs.TypeExpr.RoundTrip
import Mathlib.Data.List.Forall2
import Mathlib.Logic.Relation

/-!
# The types of a document in their scopes

Everything after the reading of a document takes its types as they come.  `wellScoped_of_parse` says
what it can rely on: at every place of a unit that was read and at every depth of the type there,
no nullable type is directly inside another, a variable is one that the declaration around it
declares, and a named type has an ordinary name.

The scope that a type is read in is made of the names that texts declare (`declaredName`), before
any of these texts is read.  The scope that a reader of the unit sees is made of the variables that
the declaration ended up with.  `names_of_readTypeParams` says that the two agree; after it, each
kind of declaration has one lemma, and each field of it is a type that was read in the scope its
place calls for.
-/

namespace Blueprint

open DottedName (IsDotted)

/-! ## Parts of types -/

namespace TypeExpr

/-- The types directly inside a type; those inside a variable are its bounds. -/
def children : TypeExpr → List TypeExpr
  | .primitive _ => []
  | .named _ args => args
  | .parameter _ bounds => bounds
  | .nullable t => [t]
  | .list t => [t]
  | .set t => [t]
  | .map key value => [key, value]
  | .function params result => params ++ [result]

/-- One type is another or inside it, at any depth. -/
def IsPart : TypeExpr → TypeExpr → Prop :=
  Relation.ReflTransGen fun s t => s ∈ t.children

/-- What the place of a type in a scope asks of its outermost constructor. -/
def Fits (scope : List String) : TypeExpr → Prop
  | .nullable t => t.isNullable = false
  | .parameter name bounds => bounds = [] ∧ (∀ p : Primitive, p.name ≠ name) ∧ name ∈ scope
  | .named name _ => IsDotted name ∧ IsOrdinary scope name
  | _ => True

/-- A type whose parts all fit the scope. -/
def WellScoped (scope : List String) (t : TypeExpr) : Prop :=
  ∀ s, IsPart s t → Fits scope s

/-- Some part of the type is a variable. -/
def MentionsVariable (t : TypeExpr) : Prop :=
  ∃ name bounds, IsPart (.parameter name bounds) t

variable {scope : List String} {s t : TypeExpr}

lemma Readable.fits (h : Readable scope t) : Fits scope t := by
  cases h with
  | named hname hdotted _ => exact ⟨hdotted, hname⟩
  | parameter hname hscope _ => exact ⟨rfl, hname, hscope⟩
  | nullable _ ht _ => exact ht
  | _ => trivial

lemma Readable.child (h : Readable scope t) (hs : s ∈ t.children) : Readable scope s := by
  cases h with
  | primitive => cases hs
  | named _ _ hargs => exact hargs s hs
  | parameter => cases hs
  | nullable _ _ h => exact List.mem_singleton.1 hs ▸ h
  | list h => exact List.mem_singleton.1 hs ▸ h
  | set _ h => exact List.mem_singleton.1 hs ▸ h
  | map _ hk hv =>
    rcases List.mem_pair.1 hs with rfl | rfl
    · exact hk
    · exact hv
  | function hparams hresult =>
    rcases List.mem_append.1 hs with hparam | hlast
    · exact hparams s hparam
    · exact List.mem_singleton.1 hlast ▸ hresult

lemma Readable.part (h : Readable scope t) (hs : IsPart s t) : Readable scope s := by
  induction hs with
  | refl => exact h
  | tail _ hchild ih => exact ih (h.child hchild)

lemma Readable.wellScoped (h : Readable scope t) : WellScoped scope t :=
  fun _ hs => (h.part hs).fits

lemma WellScoped.not_mentionsVariable (h : WellScoped [] t) : ¬ t.MentionsVariable := by
  rintro ⟨name, bounds, hpart⟩
  obtain ⟨-, -, hscope⟩ := h _ hpart
  cases hscope

end TypeExpr

/-! ## Declarations in their scopes -/

/-- The names of some type variables. -/
def variableNames (params : List TypeParameter) : List String :=
  params.map TypeParameter.name

/-- The signature of a method sees the variables around the method and its own. -/
def Method.WellScoped (outer : List String) (m : Method) : Prop :=
  ∀ t ∈ m.signatureTypes, t.WellScoped (outer ++ variableNames m.typeParams)

/-- The bounds and the properties of a model see its variables. -/
def Model.WellScoped (m : Model) : Prop :=
  ∀ t ∈ m.referencedTypes, t.WellScoped (variableNames m.typeParams)

/-- All of a port sees the variables of the port. -/
structure Port.WellScoped (p : Port) : Prop where
  bounds : ∀ t ∈ boundsOf p.typeParams, t.WellScoped (variableNames p.typeParams)
  superTypes : ∀ t ∈ p.superTypes, t.WellScoped (variableNames p.typeParams)
  methods : ∀ m ∈ p.methods, m.WellScoped (variableNames p.typeParams)

/-- An adapter sees no variable at all. -/
structure Adapter.WellScoped (a : Adapter) : Prop where
  implements : a.implements.WellScoped []
  constructorParams : ∀ p ∈ a.constructorParams, p.type.WellScoped []

/-- A service sees no variable but those of its methods, each in its signature. -/
structure Service.WellScoped (s : Service) : Prop where
  constructorParams : ∀ p ∈ s.constructorParams, p.type.WellScoped []
  methods : ∀ m ∈ s.methods, m.WellScoped []

/-- Every type at every place of a unit fits the variables declared around it. -/
structure SourceUnit.WellScoped (u : SourceUnit) : Prop where
  models : ∀ m ∈ u.models, m.WellScoped
  ports : ∀ p ∈ u.ports, p.WellScoped
  adapters : ∀ a ∈ u.adapters, a.WellScoped
  services : ∀ s ∈ u.services, s.WellScoped

/-! ## Computations that may fail -/

section Inversion

variable {ε α β : Type}

lemma bind_eq_ok {x : Except ε α} {f : α → Except ε β} {b : β} (h : (x >>= f) = .ok b) :
    ∃ a, x = .ok a ∧ f a = .ok b := by
  cases x with
  | error e => cases h
  | ok a => exact ⟨a, rfl, h⟩

lemma map_eq_ok {x : Except ε α} {f : α → β} {b : β} (h : x.map f = .ok b) :
    ∃ a, x = .ok a ∧ f a = b := by
  cases x with
  | error e => cases h
  | ok a => exact ⟨a, rfl, Except.ok.inj h⟩

lemma eq_ok_of_toOption {x : Except ε α} {a : α} (h : x.toOption = some a) : x = .ok a := by
  cases x with
  | error e => cases h
  | ok b =>
    cases h
    rfl

lemma forall₂_of_mapM {f : α → Except ε β} {xs : List α} {ys : List β}
    (h : xs.mapM f = .ok ys) : List.Forall₂ (fun x y => f x = .ok y) xs ys := by
  induction xs generalizing ys with
  | nil =>
    cases h
    exact .nil
  | cons x xs ih =>
    rw [List.mapM_cons] at h
    obtain ⟨y, hy, h⟩ := bind_eq_ok h
    obtain ⟨rest, hrest, h⟩ := bind_eq_ok h
    cases h
    exact .cons hy (ih hrest)

end Inversion

/-! ## Declarations of type variables -/

namespace TypeParameter

variable {scope : List String}

lemma readable_of_readBounds {offset : Nat} {texts : List (List Char)} {bounds : List TypeExpr}
    (h : readBounds scope offset texts = .ok bounds) : ∀ t ∈ bounds, t.Readable scope := by
  induction texts generalizing bounds with
  | nil =>
    cases h
    simp
  | cons text texts ih =>
    rw [readBounds] at h
    cases hread : TypeExpr.read scope text with
    | error e => simp [hread] at h
    | ok t =>
      rw [hread] at h
      obtain ⟨others, hothers, rfl⟩ := map_eq_ok h
      simpa using ⟨TypeExpr.readable_of_read hread, ih hothers⟩

lemma spec_of_read {input : List Char} {p : TypeParameter} (h : read scope input = .ok p) :
    p.name = declaredName (String.ofList input) ∧ ∀ t ∈ p.bounds, t.Readable scope := by
  simp only [read] at h
  simp only [declaredName, String.toList_ofList]
  split at h
  · cases hsplit : Text.splitOnce ['<', ':'] input with
    | none =>
      simp only [hsplit, Except.ok.injEq] at h
      subst h
      simp
    | some parts =>
      simp only [hsplit] at h
      obtain ⟨bounds, hbounds, rfl⟩ := map_eq_ok h
      exact ⟨rfl, readable_of_readBounds hbounds⟩
  · cases h

/-- A declaration that can be read declares the name it seems to. -/
lemma spec_of_parse {input : String} {p : TypeParameter} (h : parse input scope = .ok p) :
    p.name = declaredName input ∧ ∀ t ∈ p.bounds, t.Readable scope := by
  rw [parse] at h
  cases hread : read scope input.toList with
  | error e => simp [hread, Except.mapError] at h
  | ok q =>
    obtain rfl : q = p := by simpa [hread, Except.mapError] using h
    simpa using spec_of_read hread

end TypeParameter

/-! ## Lists of what can be read -/

namespace Document

open Toml (PlacedText)

section Lists

variable {α β : Type} {read : α → Nat → Except Fault β} {entries : List α} {results : List β}

lemma forall₂_of_readAll (h : readAll read entries = .ok results) :
    List.Forall₂ (fun entry result => ∃ index, read entry index = .ok result) entries results := by
  have hall := forall₂_of_mapM h
  rw [← List.zipIdx_map_fst 0 entries, List.forall₂_map_left_iff]
  exact hall.imp fun entry _ hread => ⟨entry.2, hread⟩

/-- What each reading guarantees holds of all results. -/
lemma forall_of_readAll {P : β → Prop} (h : readAll read entries = .ok results)
    (hread : ∀ entry index result, read entry index = .ok result → P result) :
    ∀ result ∈ results, P result := by
  have hall := forall₂_of_readAll h
  clear h
  induction hall with
  | nil => simp
  | cons hfirst _ ih =>
    obtain ⟨index, hfirst⟩ := hfirst
    exact List.forall_mem_cons.2 ⟨hread _ index _ hfirst, ih⟩

end Lists

/-! ## Declarations -/

variable {text : List Char} {scope : List String} {package path : String}

lemma readable_of_readType {written : PlacedText} {t : TypeExpr}
    (h : readType text scope path written = .ok t) : t.Readable scope := by
  unfold readType at h
  split at h
  next type hparse =>
    cases h
    exact TypeExpr.readable_of_read (TypeExpr.parse_eq_ok_iff_read.1 hparse)
  next => cases h

lemma wellScoped_of_readType {written : PlacedText} {t : TypeExpr}
    (h : readType text scope path written = .ok t) : t.WellScoped scope :=
  (readable_of_readType h).wellScoped

section Typed

variable {α β : Type} {entries : List α} {results : List β} {place : α → Nat → String}
  {written : α → PlacedText} {make : α → TypeExpr → β} {typeOf : β → TypeExpr}

/-- The members of a list whose types are read one by one, with nothing else to read in them. -/
lemma readable_of_readTyped
    (h : readAll (fun entry index => do
      let type ← readType text scope (place entry index) (written entry)
      return make entry type) entries = .ok results)
    (hmake : ∀ entry type, typeOf (make entry type) = type) :
    ∀ result ∈ results, (typeOf result).Readable scope := by
  refine forall_of_readAll h fun entry index result hread => ?_
  obtain ⟨type, htype, hread⟩ := bind_eq_ok hread
  cases hread
  rw [hmake]
  exact readable_of_readType htype

lemma wellScoped_of_readTyped
    (h : readAll (fun entry index => do
      let type ← readType text scope (place entry index) (written entry)
      return make entry type) entries = .ok results)
    (hmake : ∀ entry type, typeOf (make entry type) = type) :
    ∀ result ∈ results, (typeOf result).WellScoped scope :=
  fun result hresult => (readable_of_readTyped h hmake result hresult).wellScoped

end Typed

section TypeParams

variable {declarations : List PlacedText} {params : List TypeParameter}

lemma parse_of_readTypeParams (h : readTypeParams text scope path declarations = .ok params) :
    List.Forall₂ (fun written p => TypeParameter.parse written.text scope = .ok p)
      declarations params := by
  refine (forall₂_of_readAll h).imp fun written p hread => ?_
  obtain ⟨index, hread⟩ := hread
  split at hread
  next param hparse =>
    cases hread
    exact hparse
  next => cases hread

/-- The names that texts declare are those of the variables that are read from them. -/
lemma names_of_readTypeParams (h : readTypeParams text scope path declarations = .ok params)
    (outer : List String) : innerScope outer declarations = outer ++ variableNames params := by
  have hall := parse_of_readTypeParams h
  clear h
  refine congrArg (outer ++ ·) ?_
  induction hall with
  | nil => rfl
  | cons hparse _ ih =>
    have hname := (TypeParameter.spec_of_parse hparse).1
    rw [List.map_cons, ih, variableNames, variableNames, List.map_cons, hname]

lemma wellScoped_bounds (h : readTypeParams text scope path declarations = .ok params) :
    ∀ t ∈ boundsOf params, t.WellScoped scope := by
  have hall := parse_of_readTypeParams h
  clear h
  induction hall with
  | nil => simp [boundsOf]
  | cons hparse _ ih =>
    rw [boundsOf, List.flatMap_cons, List.forall_mem_append]
    exact ⟨fun t ht => ((TypeParameter.spec_of_parse hparse).2 t ht).wellScoped, ih⟩

end TypeParams

lemma wellScoped_of_readProperties {entries : List PropertyEntry} {properties : List Property}
    (h : readProperties text scope path entries = .ok properties) :
    ∀ t ∈ properties.map Property.type, t.WellScoped scope := by
  rw [List.forall_mem_map]
  exact wellScoped_of_readTyped h fun _ _ => rfl

lemma readable_of_readParameters {entries : List ParameterEntry} {params : List Parameter}
    (h : readParameters text scope path entries = .ok params) :
    ∀ p ∈ params, p.type.Readable scope :=
  readable_of_readTyped h fun _ _ => rfl

lemma wellScoped_of_readParameters {entries : List ParameterEntry} {params : List Parameter}
    (h : readParameters text scope path entries = .ok params) :
    ∀ p ∈ params, p.type.WellScoped scope :=
  fun p hp => (readable_of_readParameters h p hp).wellScoped

lemma wellScoped_unit : TypeExpr.unit.WellScoped scope :=
  (TypeExpr.Readable.primitive .unit).wellScoped

/-- What is read for a method: its variables, its parameters and its result. -/
lemma fields_of_readMethod {entry : MethodEntry} {m : Method}
    (h : readMethod text scope path entry = .ok m) :
    readTypeParams text (innerScope scope entry.typeParams) path entry.typeParams =
        .ok m.typeParams ∧
      readParameters text (innerScope scope entry.typeParams) (path ++ ".params") entry.params =
        .ok m.params ∧
      m.result.WellScoped (innerScope scope entry.typeParams) := by
  obtain ⟨typeParams, htypeParams, h⟩ := bind_eq_ok h
  obtain ⟨params, hparams, h⟩ := bind_eq_ok h
  cases hreturns : entry.returns? with
  | some written =>
    simp only [hreturns] at h
    obtain ⟨result, hresult, h⟩ := bind_eq_ok h
    cases h
    exact ⟨htypeParams, hparams, wellScoped_of_readType hresult⟩
  | none =>
    simp only [hreturns] at h
    cases h
    exact ⟨htypeParams, hparams, wellScoped_unit⟩

lemma wellScoped_of_readMethod {entry : MethodEntry} {m : Method}
    (h : readMethod text scope path entry = .ok m) :
    m.WellScoped scope := by
  obtain ⟨htypeParams, hparams, hresult⟩ := fields_of_readMethod h
  intro t ht
  rw [← names_of_readTypeParams htypeParams scope]
  simp only [Method.signatureTypes, List.mem_append, List.mem_singleton] at ht
  rcases ht with (hbound | hparam) | rfl
  · exact wellScoped_bounds htypeParams t hbound
  · obtain ⟨p, hp, rfl⟩ := List.mem_map.1 hparam
    exact wellScoped_of_readParameters hparams p hp
  · exact hresult

lemma readable_of_readMethod {entry : MethodEntry} {m : Method}
    (h : readMethod text scope path entry = .ok m) :
    ∀ p ∈ m.params, p.type.Readable (scope ++ variableNames m.typeParams) := by
  obtain ⟨htypeParams, hparams, -⟩ := fields_of_readMethod h
  rw [← names_of_readTypeParams htypeParams scope]
  exact readable_of_readParameters hparams

lemma wellScoped_of_readMethods {entries : List MethodEntry} {methods : List Method}
    (h : readMethods text scope path entries = .ok methods) :
    ∀ m ∈ methods, m.WellScoped scope :=
  forall_of_readAll h fun _ _ _ => wellScoped_of_readMethod

lemma wellScoped_of_readRecord {entry : RecordEntry} {typeParams : List TypeParameter}
    {properties : List Property} (h : readRecord text path entry = .ok (typeParams, properties)) :
    ∀ t ∈ boundsOf typeParams ++ properties.map Property.type,
      t.WellScoped (variableNames typeParams) := by
  obtain ⟨_, htypeParams, h⟩ := bind_eq_ok h
  obtain ⟨_, hproperties, h⟩ := bind_eq_ok h
  cases h
  have hscope : innerScope [] entry.typeParams = variableNames typeParams :=
    names_of_readTypeParams htypeParams []
  rw [← hscope, List.forall_mem_append]
  exact ⟨wellScoped_bounds htypeParams, wellScoped_of_readProperties hproperties⟩

lemma wellScoped_of_readValueObject {entry : RecordEntry} {m : Model}
    (h : readValueObject text package path entry = .ok m) : m.WellScoped := by
  obtain ⟨_, hrecord, h⟩ := bind_eq_ok h
  cases h
  exact wellScoped_of_readRecord hrecord

lemma wellScoped_of_readEntity {entry : RecordEntry} {m : Model}
    (h : readEntity text package path entry = .ok m) : m.WellScoped := by
  obtain ⟨_, hrecord, h⟩ := bind_eq_ok h
  cases h
  exact wellScoped_of_readRecord hrecord

lemma wellScoped_of_readSealed {entry : SealedEntry} {m : Model}
    (h : readSealed text package path entry = .ok m) : m.WellScoped := by
  obtain ⟨typeParams, htypeParams, h⟩ := bind_eq_ok h
  obtain ⟨variants, hvariants, h⟩ := bind_eq_ok h
  cases h
  have hscope : innerScope [] entry.typeParams = variableNames typeParams :=
    names_of_readTypeParams htypeParams []
  have hproperties : ∀ v ∈ variants, ∀ t ∈ v.properties.map Property.type,
      t.WellScoped (innerScope [] entry.typeParams) := by
    refine forall_of_readAll hvariants fun entry index v hread => ?_
    obtain ⟨_, hproperties, hread⟩ := bind_eq_ok hread
    cases hread
    exact wellScoped_of_readProperties hproperties
  intro t ht
  change t.WellScoped (variableNames typeParams)
  rw [← hscope]
  rcases List.mem_append.1 ht with hbound | hproperty
  · exact wellScoped_bounds htypeParams t hbound
  · obtain ⟨v, hv, ht⟩ := List.mem_flatMap.1 hproperty
    exact hproperties v hv t ht

/-- An enum mentions no types. -/
lemma wellScoped_enumModel (entry : EnumEntry) : (enumModel package entry).WellScoped := by
  intro t ht
  simp [enumModel, Model.referencedTypes, Model.typeParams, Model.propertyTypes, boundsOf] at ht

lemma wellScoped_of_readPort {entry : PortEntry} {p : Port}
    (h : readPort text package path entry = .ok p) : p.WellScoped := by
  obtain ⟨typeParams, htypeParams, h⟩ := bind_eq_ok h
  obtain ⟨superTypes, hsuperTypes, h⟩ := bind_eq_ok h
  obtain ⟨methods, hmethods, h⟩ := bind_eq_ok h
  cases h
  have hscope : innerScope [] entry.typeParams = variableNames typeParams :=
    names_of_readTypeParams htypeParams []
  rw [hscope] at htypeParams hsuperTypes hmethods
  exact {
    bounds := wellScoped_bounds htypeParams
    superTypes := forall_of_readAll hsuperTypes fun _ _ _ => wellScoped_of_readType
    methods := wellScoped_of_readMethods hmethods }

/-- The parameters of a port's methods are read in the scope of the port and the method. -/
lemma readable_of_readPort {entry : PortEntry} {p : Port}
    (h : readPort text package path entry = .ok p) :
    ∀ m ∈ p.methods, ∀ q ∈ m.params,
      q.type.Readable (variableNames p.typeParams ++ variableNames m.typeParams) := by
  obtain ⟨typeParams, htypeParams, h⟩ := bind_eq_ok h
  obtain ⟨superTypes, -, h⟩ := bind_eq_ok h
  obtain ⟨methods, hmethods, h⟩ := bind_eq_ok h
  cases h
  have hscope : innerScope [] entry.typeParams = variableNames typeParams :=
    names_of_readTypeParams htypeParams []
  rw [hscope] at hmethods
  exact forall_of_readAll hmethods fun _ _ _ => readable_of_readMethod

lemma wellScoped_of_readAdapter {entry : AdapterEntry} {a : Adapter}
    (h : readAdapter text package path entry = .ok a) : a.WellScoped := by
  obtain ⟨implements, himplements, h⟩ := bind_eq_ok h
  obtain ⟨infrastructure, hinfrastructure, h⟩ := bind_eq_ok h
  obtain ⟨others, hothers, h⟩ := bind_eq_ok h
  cases h
  refine ⟨wellScoped_of_readType himplements, List.forall_mem_append.2 ⟨?_, ?_⟩⟩
  · rw [List.forall_mem_map]
    exact wellScoped_of_readTyped hinfrastructure fun _ _ => rfl
  · exact wellScoped_of_readParameters hothers

lemma wellScoped_of_readService {entry : ServiceEntry} {s : Service}
    (h : readService text package path entry = .ok s) : s.WellScoped := by
  obtain ⟨ports, hports, h⟩ := bind_eq_ok h
  obtain ⟨others, hothers, h⟩ := bind_eq_ok h
  obtain ⟨methods, hmethods, h⟩ := bind_eq_ok h
  cases h
  refine ⟨List.forall_mem_append.2 ⟨?_, ?_⟩, wellScoped_of_readMethods hmethods⟩
  · rw [List.forall_mem_map]
    exact wellScoped_of_readTyped hports fun _ _ => rfl
  · exact wellScoped_of_readParameters hothers

/-! ## Units -/

lemma wellScoped_of_readUnit {entries : Entries} {u : SourceUnit}
    (h : readUnit text entries = .ok u) : u.WellScoped := by
  obtain ⟨valueObjects, hvalueObjects, h⟩ := bind_eq_ok h
  obtain ⟨entities, hentities, h⟩ := bind_eq_ok h
  obtain ⟨sealeds, hsealeds, h⟩ := bind_eq_ok h
  obtain ⟨ports, hports, h⟩ := bind_eq_ok h
  obtain ⟨adapters, hadapters, h⟩ := bind_eq_ok h
  obtain ⟨services, hservices, h⟩ := bind_eq_ok h
  cases h
  refine {
    models := ?_
    ports := forall_of_readAll hports fun _ _ _ => wellScoped_of_readPort
    adapters := forall_of_readAll hadapters fun _ _ _ => wellScoped_of_readAdapter
    services := forall_of_readAll hservices fun _ _ _ => wellScoped_of_readService }
  rw [List.forall_mem_append, List.forall_mem_append, List.forall_mem_append]
  refine ⟨⟨⟨?_, ?_⟩, ?_⟩, ?_⟩
  · exact forall_of_readAll hvalueObjects fun _ _ _ => wellScoped_of_readValueObject
  · exact forall_of_readAll hentities fun _ _ _ => wellScoped_of_readEntity
  · exact forall_of_readAll hsealeds fun _ _ _ => wellScoped_of_readSealed
  · rw [List.forall_mem_map]
    exact fun entry _ => wellScoped_enumModel entry

/-- A document that can be read has entries whose types can be. -/
lemma exists_readUnit_of_parse {u : SourceUnit} (h : parse text = .ok u) :
    ∃ entries, readUnit text entries = .ok u := by
  unfold parse at h
  split at h
  next => cases h
  next value _ =>
    split at h
    next =>
      split at h
      next => cases h
      next entries _ => exact ⟨entries, h⟩
    next => cases h

lemma readable_of_parse {u : SourceUnit} (h : parse text = .ok u) :
    ∀ p ∈ u.ports, ∀ m ∈ p.methods, ∀ q ∈ m.params,
      q.type.Readable (variableNames p.typeParams ++ variableNames m.typeParams) := by
  obtain ⟨entries, h⟩ := exists_readUnit_of_parse h
  obtain ⟨valueObjects, -, h⟩ := bind_eq_ok h
  obtain ⟨entities, -, h⟩ := bind_eq_ok h
  obtain ⟨sealeds, -, h⟩ := bind_eq_ok h
  obtain ⟨ports, hports, h⟩ := bind_eq_ok h
  obtain ⟨adapters, -, h⟩ := bind_eq_ok h
  obtain ⟨services, -, h⟩ := bind_eq_ok h
  cases h
  exact forall_of_readAll hports fun _ _ _ => readable_of_readPort

/-- **The types of a document that was read fit their scopes.**  At every place of the unit, every
part of the type there is one that the scope of the place allows.  No nullable type is directly
inside another.  A variable carries no bounds, has no scalar's name and is declared by the method,
the model or the port around it.  A named type has a dotted identifier for its name, which is no
scalar's, no constructor's and no variable's.  In particular adapters and the constructors of
services mention no variables. -/
theorem wellScoped_of_parse {u : SourceUnit} (h : parse text = .ok u) :
    u.WellScoped ∧
      (∀ a ∈ u.adapters, ¬ a.implements.MentionsVariable ∧
        ∀ p ∈ a.constructorParams, ¬ p.type.MentionsVariable) ∧
      ∀ s ∈ u.services, ∀ p ∈ s.constructorParams, ¬ p.type.MentionsVariable := by
  obtain ⟨entries, hread⟩ := exists_readUnit_of_parse h
  have hunit := wellScoped_of_readUnit hread
  refine ⟨hunit, fun a ha => ⟨?_, fun p hp => ?_⟩, fun s hs p hp => ?_⟩
  · exact (hunit.adapters a ha).implements.not_mentionsVariable
  · exact ((hunit.adapters a ha).constructorParams p hp).not_mentionsVariable
  · exact ((hunit.services s hs).constructorParams p hp).not_mentionsVariable

/-- A method sees the variable of its port beside its own, and a bound may mention the variable it
belongs to. -/
theorem wellScoped_of_parse_method :
    let text := "[[ports]]\nname = \"P\"\ntype_params = [\"+T <: A[T]\"]\n" ++
      "[[ports.methods]]\nname = \"m\"\ntype_params = [\"R\"]\n" ++
      "returns = \"(T, Option[R]) => Seq[B]\"\n"
    let bound : TypeExpr := .named "A" [.parameter "T" []]
    let result : TypeExpr :=
      .function [.parameter "T" [], .nullable (.parameter "R" [])] (.list (.named "B" []))
    let m : Method := { name := "m", typeParams := [⟨"R", []⟩], result }
    let p : Port := { name := "P", typeParams := [⟨"T", [bound]⟩], methods := [m] }
    parse text.toList = .ok { ports := [p] } ∧
      bound.WellScoped ["T"] ∧ result.WellScoped ["T", "R"] := by
  intro text bound result m p
  have hparse : parse text.toList = .ok { ports := [p] } := eq_ok_of_toOption (by decide +kernel)
  have hport : p.WellScoped := (wellScoped_of_parse hparse).1.ports p (by simp)
  refine ⟨hparse, hport.bounds bound (by simp [p, boundsOf]), ?_⟩
  exact hport.methods m (by simp [p]) result (by simp [m, Method.signatureTypes])

end Document

end Blueprint
