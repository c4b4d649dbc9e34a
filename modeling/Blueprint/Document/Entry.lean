import Blueprint.Declaration
import Blueprint.Toml.Shape

/-!
# Entries of an architecture document

A document is a TOML table with lists of declarations.  This module reads its shape: every entry
has the fields it may have, and the texts of types still stand as they are written, with their
place.
-/

namespace Blueprint.Document

open Toml (Value ShapeFault PlacedText RecordShape field defaulted)

/-- A list of texts of types. -/
def placedTexts : Value → Except ShapeFault (List PlacedText) :=
  Value.asList Value.asPlacedText

/-- A list of strings. -/
def strings : Value → Except ShapeFault (List String) :=
  Value.asList Value.asString

/-! ## Properties and parameters -/

/-- A property as written. -/
structure PropertyEntry where
  name : String
  type : PlacedText
  isMutable : Bool
  default? : Option String
  doc? : Option String
deriving Repr, Inhabited

/-- The fields of a property. -/
def propertyShape : RecordShape where
  label := "PropertyDto"
  strict := true
  fields :=
    [field "name" Value.asString, field "type" Value.asPlacedText,
      defaulted "mutable" Value.asBoolean, field "default" Value.asString,
      field "doc" Value.asString]

/-- Reads a property. -/
def PropertyEntry.ofValue (v : Value) : Except ShapeFault PropertyEntry := do
  let fields ← propertyShape.read v
  return {
    name := ← fields.required "name" Value.asString
    type := ← fields.required "type" Value.asPlacedText
    isMutable := ← fields.withDefault "mutable" Value.asBoolean false
    default? := ← fields.optional "default" Value.asString
    doc? := ← fields.optional "doc" Value.asString }

/-- A parameter as written. -/
structure ParameterEntry where
  name : String
  type : PlacedText
  default? : Option String
deriving Repr, Inhabited

/-- The fields of a parameter. -/
def parameterShape : RecordShape where
  label := "ParamDto"
  strict := true
  fields :=
    [field "name" Value.asString, field "type" Value.asPlacedText,
      field "default" Value.asString]

/-- Reads a parameter. -/
def ParameterEntry.ofValue (v : Value) : Except ShapeFault ParameterEntry := do
  let fields ← parameterShape.read v
  return {
    name := ← fields.required "name" Value.asString
    type := ← fields.required "type" Value.asPlacedText
    default? := ← fields.optional "default" Value.asString }

/-! ## Models -/

/-- A value object or an entity as written. -/
structure RecordEntry where
  name : String
  package? : Option String
  typeParams : List PlacedText
  properties : List PropertyEntry
  inline : Bool
deriving Repr, Inhabited

/-- The fields of a value object or an entity. -/
def recordShape : RecordShape where
  label := "RecordDto"
  strict := true
  fields :=
    [field "name" Value.asString, field "package" Value.asString,
      defaulted "type_params" placedTexts,
      defaulted "properties" (Value.asList PropertyEntry.ofValue),
      defaulted "inline" Value.asBoolean]

/-- Reads a value object or an entity. -/
def RecordEntry.ofValue (v : Value) : Except ShapeFault RecordEntry := do
  let fields ← recordShape.read v
  return {
    name := ← fields.required "name" Value.asString
    package? := ← fields.optional "package" Value.asString
    typeParams := ← fields.withDefault "type_params" placedTexts []
    properties := ← fields.withDefault "properties" (Value.asList PropertyEntry.ofValue) []
    inline := ← fields.withDefault "inline" Value.asBoolean false }

/-- A variant of a sealed hierarchy as written. -/
structure VariantEntry where
  name : String
  properties : List PropertyEntry
deriving Repr, Inhabited

/-- The fields of a variant of a sealed hierarchy. -/
def variantShape : RecordShape where
  label := "SubtypeDto"
  strict := true
  fields :=
    [field "name" Value.asString,
      defaulted "properties" (Value.asList PropertyEntry.ofValue)]

/-- Reads a variant of a sealed hierarchy. -/
def VariantEntry.ofValue (v : Value) : Except ShapeFault VariantEntry := do
  let fields ← variantShape.read v
  return {
    name := ← fields.required "name" Value.asString
    properties := ← fields.withDefault "properties" (Value.asList PropertyEntry.ofValue) [] }

/-- A sealed hierarchy as written. -/
structure SealedEntry where
  name : String
  package? : Option String
  typeParams : List PlacedText
  variants : List VariantEntry
deriving Repr, Inhabited

/-- The fields of a sealed hierarchy. -/
def sealedShape : RecordShape where
  label := "SealedDto"
  strict := true
  fields :=
    [field "name" Value.asString, field "package" Value.asString,
      defaulted "type_params" placedTexts,
      defaulted "subtypes" (Value.asList VariantEntry.ofValue)]

/-- Reads a sealed hierarchy. -/
def SealedEntry.ofValue (v : Value) : Except ShapeFault SealedEntry := do
  let fields ← sealedShape.read v
  return {
    name := ← fields.required "name" Value.asString
    package? := ← fields.optional "package" Value.asString
    typeParams := ← fields.withDefault "type_params" placedTexts []
    variants := ← fields.withDefault "subtypes" (Value.asList VariantEntry.ofValue) [] }

/-- An enum as written. -/
structure EnumEntry where
  name : String
  package? : Option String
  values : List String
deriving Repr, Inhabited

/-- The fields of an enum. -/
def enumShape : RecordShape where
  label := "EnumDto"
  strict := true
  fields :=
    [field "name" Value.asString, field "package" Value.asString, defaulted "values" strings]

/-- Reads an enum. -/
def EnumEntry.ofValue (v : Value) : Except ShapeFault EnumEntry := do
  let fields ← enumShape.read v
  return {
    name := ← fields.required "name" Value.asString
    package? := ← fields.optional "package" Value.asString
    values := ← fields.withDefault "values" strings [] }

/-! ## Ports -/

/-- The words for the visibility of a method. -/
def visibilityWords : List (String × Visibility) :=
  [("public", .everyone), ("protected", .subclasses), ("private", .owner),
    ("internal", .sameModule)]

/-- A method as written. -/
structure MethodEntry where
  name : String
  typeParams : List PlacedText
  params : List ParameterEntry
  returns? : Option PlacedText
  visibility : Visibility
  isAbstract : Bool
  isSuspend : Bool
  annotations : List String
  doc? : Option String
  body? : Option String
deriving Repr, Inhabited

/-- The fields of a method. -/
def methodShape : RecordShape where
  label := "MethodDto"
  strict := true
  fields :=
    [field "name" Value.asString, defaulted "type_params" placedTexts,
      defaulted "params" (Value.asList ParameterEntry.ofValue),
      field "returns" Value.asPlacedText, defaulted "visibility" (Value.asWord visibilityWords),
      defaulted "abstract" Value.asBoolean, defaulted "suspend" Value.asBoolean,
      defaulted "annotations" strings, field "doc" Value.asString, field "body" Value.asString]

/-- Reads a method. -/
def MethodEntry.ofValue (v : Value) : Except ShapeFault MethodEntry := do
  let fields ← methodShape.read v
  return {
    name := ← fields.required "name" Value.asString
    typeParams := ← fields.withDefault "type_params" placedTexts []
    params := ← fields.withDefault "params" (Value.asList ParameterEntry.ofValue) []
    returns? := ← fields.optional "returns" Value.asPlacedText
    visibility := ← fields.withDefault "visibility" (Value.asWord visibilityWords) .everyone
    isAbstract := ← fields.withDefault "abstract" Value.asBoolean true
    isSuspend := ← fields.withDefault "suspend" Value.asBoolean false
    annotations := ← fields.withDefault "annotations" strings []
    doc? := ← fields.optional "doc" Value.asString
    body? := ← fields.optional "body" Value.asString }

/-- The words for the role of a port. -/
def portKindWords : List (String × PortKind) :=
  [("repository", .repository), ("service", .service), ("use-case", .useCase),
    ("event-handler", .eventHandler), ("generic", .generic)]

/-- A port as written. -/
structure PortEntry where
  name : String
  package? : Option String
  kind : PortKind
  typeParams : List PlacedText
  superTypes : List PlacedText
  methods : List MethodEntry
deriving Repr, Inhabited

/-- The fields of a port. -/
def portShape : RecordShape where
  label := "PortDto"
  strict := true
  fields :=
    [field "name" Value.asString, field "package" Value.asString,
      defaulted "kind" (Value.asWord portKindWords), defaulted "type_params" placedTexts,
      defaulted "extends" placedTexts, defaulted "methods" (Value.asList MethodEntry.ofValue)]

/-- Reads a port. -/
def PortEntry.ofValue (v : Value) : Except ShapeFault PortEntry := do
  let fields ← portShape.read v
  return {
    name := ← fields.required "name" Value.asString
    package? := ← fields.optional "package" Value.asString
    kind := ← fields.withDefault "kind" (Value.asWord portKindWords) .generic
    typeParams := ← fields.withDefault "type_params" placedTexts []
    superTypes := ← fields.withDefault "extends" placedTexts []
    methods := ← fields.withDefault "methods" (Value.asList MethodEntry.ofValue) [] }

/-! ## Adapters and services -/

/-- The words for the kind of infrastructure. -/
def categoryWords : List (String × InfrastructureCategory) :=
  [("database", .database), ("message-queue", .messageQueue), ("http", .http),
    ("generic", .generic)]

/-- Infrastructure of an adapter as written. -/
structure InfrastructureEntry where
  name : String
  type : PlacedText
  category : InfrastructureCategory
deriving Repr, Inhabited

/-- The fields of infrastructure of an adapter. -/
def infrastructureShape : RecordShape where
  label := "InfrastructureDto"
  strict := true
  fields :=
    [field "name" Value.asString, field "type" Value.asPlacedText,
      defaulted "category" (Value.asWord categoryWords)]

/-- Reads infrastructure of an adapter. -/
def InfrastructureEntry.ofValue (v : Value) : Except ShapeFault InfrastructureEntry := do
  let fields ← infrastructureShape.read v
  return {
    name := ← fields.required "name" Value.asString
    type := ← fields.required "type" Value.asPlacedText
    category := ← fields.withDefault "category" (Value.asWord categoryWords) .generic }

/-- The words for the role of an adapter. -/
def adapterKindWords : List (String × AdapterKind) :=
  [("persistence", .persistence), ("messaging", .messaging), ("rest", .rest), ("event", .event),
    ("generic", .generic)]

/-- An adapter as written. -/
structure AdapterEntry where
  name : String
  package? : Option String
  implements : PlacedText
  kind : AdapterKind
  infrastructure : List InfrastructureEntry
  dependencies : List ParameterEntry
deriving Repr, Inhabited

/-- The fields of an adapter. -/
def adapterShape : RecordShape where
  label := "AdapterDto"
  strict := true
  fields :=
    [field "name" Value.asString, field "package" Value.asString,
      field "implements" Value.asPlacedText, defaulted "kind" (Value.asWord adapterKindWords),
      defaulted "infrastructure" (Value.asList InfrastructureEntry.ofValue),
      defaulted "dependencies" (Value.asList ParameterEntry.ofValue)]

/-- Reads an adapter. -/
def AdapterEntry.ofValue (v : Value) : Except ShapeFault AdapterEntry := do
  let fields ← adapterShape.read v
  return {
    name := ← fields.required "name" Value.asString
    package? := ← fields.optional "package" Value.asString
    implements := ← fields.required "implements" Value.asPlacedText
    kind := ← fields.withDefault "kind" (Value.asWord adapterKindWords) .generic
    infrastructure :=
      ← fields.withDefault "infrastructure" (Value.asList InfrastructureEntry.ofValue) []
    dependencies := ← fields.withDefault "dependencies" (Value.asList ParameterEntry.ofValue) [] }

/-- A port that a service depends on, as written. -/
structure PortDependencyEntry where
  name : String
  type : PlacedText
  doc? : Option String
deriving Repr, Inhabited

/-- The fields of a port that a service depends on. -/
def portDependencyShape : RecordShape where
  label := "PortDependencyDto"
  strict := true
  fields :=
    [field "name" Value.asString, field "type" Value.asPlacedText, field "doc" Value.asString]

/-- Reads a port that a service depends on. -/
def PortDependencyEntry.ofValue (v : Value) : Except ShapeFault PortDependencyEntry := do
  let fields ← portDependencyShape.read v
  return {
    name := ← fields.required "name" Value.asString
    type := ← fields.required "type" Value.asPlacedText
    doc? := ← fields.optional "doc" Value.asString }

/-- A service as written. -/
structure ServiceEntry where
  name : String
  package? : Option String
  ports : List PortDependencyEntry
  dependencies : List ParameterEntry
  methods : List MethodEntry
  annotations : List String
deriving Repr, Inhabited

/-- The fields of a service. -/
def serviceShape : RecordShape where
  label := "ServiceDto"
  strict := true
  fields :=
    [field "name" Value.asString, field "package" Value.asString,
      defaulted "ports" (Value.asList PortDependencyEntry.ofValue),
      defaulted "dependencies" (Value.asList ParameterEntry.ofValue),
      defaulted "methods" (Value.asList MethodEntry.ofValue), defaulted "annotations" strings]

/-- Reads a service. -/
def ServiceEntry.ofValue (v : Value) : Except ShapeFault ServiceEntry := do
  let fields ← serviceShape.read v
  return {
    name := ← fields.required "name" Value.asString
    package? := ← fields.optional "package" Value.asString
    ports := ← fields.withDefault "ports" (Value.asList PortDependencyEntry.ofValue) []
    dependencies := ← fields.withDefault "dependencies" (Value.asList ParameterEntry.ofValue) []
    methods := ← fields.withDefault "methods" (Value.asList MethodEntry.ofValue) []
    annotations := ← fields.withDefault "annotations" strings [] }

/-! ## The document -/

/-- A document as written. -/
structure Entries where
  package : String
  valueObjects : List RecordEntry
  entities : List RecordEntry
  sealeds : List SealedEntry
  enums : List EnumEntry
  ports : List PortEntry
  adapters : List AdapterEntry
  services : List ServiceEntry
deriving Repr, Inhabited

/-- The fields of a document. -/
def documentShape : RecordShape where
  label := "DocumentDto"
  strict := true
  fields :=
    [defaulted "package" Value.asString,
      defaulted "value_objects" (Value.asList RecordEntry.ofValue),
      defaulted "entities" (Value.asList RecordEntry.ofValue),
      defaulted "sealed" (Value.asList SealedEntry.ofValue),
      defaulted "enums" (Value.asList EnumEntry.ofValue),
      defaulted "ports" (Value.asList PortEntry.ofValue),
      defaulted "adapters" (Value.asList AdapterEntry.ofValue),
      defaulted "services" (Value.asList ServiceEntry.ofValue)]

/-- Reads a document. -/
def Entries.ofValue (v : Value) : Except ShapeFault Entries := do
  let fields ← documentShape.read v
  return {
    package := ← fields.withDefault "package" Value.asString ""
    valueObjects := ← fields.withDefault "value_objects" (Value.asList RecordEntry.ofValue) []
    entities := ← fields.withDefault "entities" (Value.asList RecordEntry.ofValue) []
    sealeds := ← fields.withDefault "sealed" (Value.asList SealedEntry.ofValue) []
    enums := ← fields.withDefault "enums" (Value.asList EnumEntry.ofValue) []
    ports := ← fields.withDefault "ports" (Value.asList PortEntry.ofValue) []
    adapters := ← fields.withDefault "adapters" (Value.asList AdapterEntry.ofValue) []
    services := ← fields.withDefault "services" (Value.asList ServiceEntry.ofValue) [] }

end Blueprint.Document
