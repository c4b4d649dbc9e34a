import Blueprint.Document.Entry
import Blueprint.Document.Place
import Blueprint.Finding
import Blueprint.SourceUnit
import Blueprint.Toml.Document
import Blueprint.TypeExpr.Parameter

/-!
# Architecture documents

A document becomes the unit of its declarations: first its shape is read, then the texts of its
types are, in the order of the declarations by kind.  The first fault is reported at its place.

The type variables of a model or a port are in scope in all of it, those of a method in its
signature; the bounds of a type variable see all variables declared beside it.
-/

namespace Blueprint.Document

open Toml (PlacedText)

/-- Why a document cannot be read. -/
inductive Cause where
  /-- The text is no TOML. -/
  | notToml
  /-- A value has the wrong shape. -/
  | shape (cause : Toml.ShapeCause)
  /-- The text of a type, at a path of the document, is none. -/
  | type (path : String) (error : TypeExpr.SyntaxError)
deriving Repr, Inhabited

/-- The cause in words. -/
def Cause.message : Cause → String
  | .notToml => "invalid TOML"
  | .shape cause => cause.message
  | .type path error => path ++ ": " ++ error.message

/-- A fault of a document. -/
structure Fault where
  cause : Cause
  position : Text.Position
deriving Repr, Inhabited

/-- A path of a document, one step into a list. -/
def item (path : String) (index : Nat) : String :=
  path ++ "[" ++ toString index ++ "]"

/-- The results of reading the members of a list, each with its index. -/
def readAll (read : α → Nat → Except Fault β) (entries : List α) : Except Fault (List β) :=
  entries.zipIdx.mapM fun (entry, index) => read entry index

/-! ## Types -/

/-- The bytes of a text in a span. -/
def slice (text : List Char) (span : Toml.Span) : List Char :=
  ((Text.dropBytes? span.start text).bind (Text.takeBytes? (span.stop - span.start))).getD []

/-- The fault of a type text, at the character it complains about. -/
def typeFault (text : List Char) (path : String) (written : PlacedText)
    (error : TypeExpr.SyntaxError) : Fault :=
  let offset := written.span.start + valueOffset (slice text written.span) error.column
  ⟨.type path error, Text.Position.ofOffset text offset⟩

/-- The type that a text spells. -/
def readType (text : List Char) (scope : List String) (path : String) (written : PlacedText) :
    Except Fault TypeExpr :=
  match TypeExpr.parse written.text scope with
  | .ok type => .ok type
  | .error error => .error (typeFault text path written error)

/-- The type variables that some texts declare, all of them in scope in the bounds of each. -/
def readTypeParams (text : List Char) (scope : List String) (path : String)
    (declarations : List PlacedText) : Except Fault (List TypeParameter) :=
  readAll
    (fun written index =>
      match TypeParameter.parse written.text scope with
      | .ok param => .ok param
      | .error error => .error (typeFault text (item (path ++ ".type_params") index) written error))
    declarations

/-- A scope with the names that some texts declare. -/
def innerScope (scope : List String) (declarations : List PlacedText) : List String :=
  scope ++ declarations.map fun written => TypeParameter.declaredName written.text

/-! ## Declarations -/

/-- Reads the types of properties. -/
def readProperties (text : List Char) (scope : List String) (path : String)
    (entries : List PropertyEntry) : Except Fault (List Property) :=
  readAll
    (fun entry index => do
      let type ← readType text scope (item (path ++ ".properties") index ++ ".type") entry.type
      return {
        name := entry.name, type, readOnly := !entry.isMutable, default? := entry.default?,
        doc? := entry.doc? })
    entries

/-- Reads the types of parameters. -/
def readParameters (text : List Char) (scope : List String) (path : String)
    (entries : List ParameterEntry) : Except Fault (List Parameter) :=
  readAll
    (fun entry index => do
      let type ← readType text scope (item path index ++ ".type") entry.type
      return { name := entry.name, type, default? := entry.default? })
    entries

/-- Reads the types of a method; one without a result gives the unit value. -/
def readMethod (text : List Char) (scope : List String) (path : String) (entry : MethodEntry) :
    Except Fault Method := do
  let scope := innerScope scope entry.typeParams
  let typeParams ← readTypeParams text scope path entry.typeParams
  let params ← readParameters text scope (path ++ ".params") entry.params
  let result ←
    match entry.returns? with
    | some written => readType text scope (path ++ ".returns") written
    | none => .ok .unit
  return {
    name := entry.name, typeParams, params, result, visibility := entry.visibility,
    isAbstract := entry.isAbstract, isSuspend := entry.isSuspend,
    annotations := entry.annotations, doc? := entry.doc?, body? := entry.body? }

/-- Reads the types of methods. -/
def readMethods (text : List Char) (scope : List String) (path : String)
    (entries : List MethodEntry) : Except Fault (List Method) :=
  readAll (fun entry index => readMethod text scope (item (path ++ ".methods") index) entry) entries

/-- Reads the types of a value object or an entity. -/
def readRecord (text : List Char) (path : String) (entry : RecordEntry) :
    Except Fault (List TypeParameter × List Property) := do
  let scope := innerScope [] entry.typeParams
  let typeParams ← readTypeParams text scope path entry.typeParams
  let properties ← readProperties text scope path entry.properties
  return (typeParams, properties)

/-- Reads the types of a value object. -/
def readValueObject (text : List Char) (package path : String) (entry : RecordEntry) :
    Except Fault Model := do
  let (typeParams, properties) ← readRecord text path entry
  return {
    name := entry.name, package := entry.package?.getD package,
    shape := .valueObject typeParams properties entry.inline }

/-- Reads the types of an entity. -/
def readEntity (text : List Char) (package path : String) (entry : RecordEntry) :
    Except Fault Model := do
  let (typeParams, properties) ← readRecord text path entry
  return {
    name := entry.name, package := entry.package?.getD package,
    shape := .entity typeParams properties }

/-- Reads the types of a sealed hierarchy. -/
def readSealed (text : List Char) (package path : String) (entry : SealedEntry) :
    Except Fault Model := do
  let scope := innerScope [] entry.typeParams
  let typeParams ← readTypeParams text scope path entry.typeParams
  let variants ←
    readAll
      (fun (variant : VariantEntry) index => do
        let properties ←
          readProperties text scope (item (path ++ ".subtypes") index) variant.properties
        return { name := variant.name, properties : Variant })
      entry.variants
  return {
    name := entry.name, package := entry.package?.getD package,
    shape := .sealedHierarchy typeParams variants }

/-- The model of an enum. -/
def enumModel (package : String) (entry : EnumEntry) : Model :=
  { name := entry.name, package := entry.package?.getD package, shape := .enum entry.values }

/-- Reads the types of a port. -/
def readPort (text : List Char) (package path : String) (entry : PortEntry) :
    Except Fault Port := do
  let scope := innerScope [] entry.typeParams
  let typeParams ← readTypeParams text scope path entry.typeParams
  let superTypes ←
    readAll (fun written index => readType text scope (item (path ++ ".extends") index) written)
      entry.superTypes
  let methods ← readMethods text scope path entry.methods
  return {
    name := entry.name, package := entry.package?.getD package, typeParams, methods, superTypes,
    kind := entry.kind }

/-- Reads the types of an adapter. -/
def readAdapter (text : List Char) (package path : String) (entry : AdapterEntry) :
    Except Fault Adapter := do
  let implements ← readType text [] (path ++ ".implements") entry.implements
  let infrastructure ←
    readAll
      (fun (dependency : InfrastructureEntry) index => do
        let type ←
          readType text [] (item (path ++ ".infrastructure") index ++ ".type") dependency.type
        return { category := dependency.category, name := dependency.name, type : Infrastructure })
      entry.infrastructure
  let others ← readParameters text [] (path ++ ".dependencies") entry.dependencies
  return {
    name := entry.name, package := entry.package?.getD package, implements, infrastructure, others,
    kind := entry.kind }

/-- Reads the types of a service. -/
def readService (text : List Char) (package path : String) (entry : ServiceEntry) :
    Except Fault Service := do
  let ports ←
    readAll
      (fun (dependency : PortDependencyEntry) index => do
        let port ← readType text [] (item (path ++ ".ports") index ++ ".type") dependency.type
        return { port, name := dependency.name, doc? := dependency.doc? : PortDependency })
      entry.ports
  let others ← readParameters text [] (path ++ ".dependencies") entry.dependencies
  let methods ← readMethods text [] path entry.methods
  return {
    name := entry.name, package := entry.package?.getD package, ports, others, methods,
    annotations := entry.annotations }

/-! ## Units -/

/-- Reads the types of a document. -/
def readUnit (text : List Char) (d : Entries) : Except Fault SourceUnit := do
  let valueObjects ←
    readAll (fun e i => readValueObject text d.package (item "value_objects" i) e) d.valueObjects
  let entities ← readAll (fun e i => readEntity text d.package (item "entities" i) e) d.entities
  let sealeds ← readAll (fun e i => readSealed text d.package (item "sealed" i) e) d.sealeds
  let enums := d.enums.map (enumModel d.package)
  let ports ← readAll (fun e i => readPort text d.package (item "ports" i) e) d.ports
  let adapters ← readAll (fun e i => readAdapter text d.package (item "adapters" i) e) d.adapters
  let services ← readAll (fun e i => readService text d.package (item "services" i) e) d.services
  return {
    package := d.package, models := valueObjects ++ entities ++ sealeds ++ enums, ports, adapters,
    services }

/-- The unit that a document spells. -/
def parse (text : List Char) : Except Fault SourceUnit :=
  match Toml.parse text with
  | .error fault => .error ⟨.notToml, Text.Position.ofOffset text fault.offset⟩
  | .ok value =>
    if value.fits then
      match Entries.ofValue value with
      | .error fault => .error ⟨.shape fault.cause, Text.Position.ofOffset text fault.span.start⟩
      | .ok entries => readUnit text entries
    else .error ⟨.notToml, .start⟩

end Blueprint.Document
