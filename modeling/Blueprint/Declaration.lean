import Blueprint.TypeExpr.Basic

/-!
# Declarations

What an architecture document declares.  *Models* are the data of the domain: value objects,
entities, sealed hierarchies and enums.  *Ports* are the contracts at its boundary, *adapters* bind
a port to infrastructure, and *services* hold application logic that depends on ports.
-/

namespace Blueprint

/-- A field of a model. -/
structure Property where
  name : String
  type : TypeExpr
  /-- Whether the property cannot be assigned. -/
  readOnly : Bool := true
  default? : Option String := none
  doc? : Option String := none
deriving DecidableEq, Repr, Inhabited

/-- A parameter of a method or a constructor. -/
structure Parameter where
  name : String
  type : TypeExpr
  default? : Option String := none
deriving DecidableEq, Repr, Inhabited

/-- Who may call a method. -/
inductive Visibility where
  | everyone
  | subclasses
  | owner
  | sameModule
deriving DecidableEq, Repr, Inhabited

/-- A method of a port or a service. -/
structure Method where
  name : String
  typeParams : List TypeParameter := []
  params : List Parameter := []
  result : TypeExpr := .unit
  visibility : Visibility := .everyone
  isAbstract : Bool := true
  isSuspend : Bool := false
  annotations : List String := []
  doc? : Option String := none
  /-- The body in the target language, if the document gives one. -/
  body? : Option String := none
deriving DecidableEq, Repr, Inhabited

/-- The bounds of some type variables, in order. -/
def boundsOf (params : List TypeParameter) : List TypeExpr :=
  params.flatMap TypeParameter.bounds

/-- Every type in the signature of a method, in order. -/
def Method.signatureTypes (m : Method) : List TypeExpr :=
  boundsOf m.typeParams ++ m.params.map Parameter.type ++ [m.result]

/-- One alternative of a sealed hierarchy. -/
structure Variant where
  name : String
  properties : List Property := []
deriving DecidableEq, Repr, Inhabited

/-- What kind of data a model is. -/
inductive ModelShape where
  /-- A value, `wrapper` when the document marks it as a wrapper around one field. -/
  | valueObject (typeParams : List TypeParameter) (properties : List Property) (wrapper : Bool)
  | entity (typeParams : List TypeParameter) (properties : List Property)
  | sealedHierarchy (typeParams : List TypeParameter) (variants : List Variant)
  | enum (values : List String)
deriving DecidableEq, Repr, Inhabited

/-- A model of the domain. -/
structure Model where
  name : String
  package : String := ""
  shape : ModelShape
deriving DecidableEq, Repr, Inhabited

namespace Model

/-- The name of a model with its package. -/
def qualifiedName (m : Model) : String :=
  DottedName.qualify m.package m.name

/-- The alternatives of a sealed hierarchy; none for any other model. -/
def variants (m : Model) : List Variant :=
  match m.shape with
  | .sealedHierarchy _ variants => variants
  | _ => []

/-- The simple names of the classes a model declares: its own and those of its variants. -/
def classNames (m : Model) : List String :=
  m.name :: m.variants.map Variant.name

/-- The names a model declares, with its package. -/
def declaredNames (m : Model) : List String :=
  m.classNames.map (DottedName.qualify m.package)

/-- The type variables of a model. -/
def typeParams (m : Model) : List TypeParameter :=
  match m.shape with
  | .valueObject typeParams _ _ => typeParams
  | .entity typeParams _ => typeParams
  | .sealedHierarchy typeParams _ => typeParams
  | .enum _ => []

/-- What messages call the kind of a model. -/
def kindLabel (m : Model) : String :=
  match m.shape with
  | .valueObject .. => "value object"
  | .entity .. => "entity"
  | .sealedHierarchy .. => "sealed hierarchy"
  | .enum _ => "enum"

/-- The types of all properties of a model, those of its variants included. -/
def propertyTypes (m : Model) : List TypeExpr :=
  match m.shape with
  | .valueObject _ properties _ => properties.map Property.type
  | .entity _ properties => properties.map Property.type
  | .sealedHierarchy _ variants => variants.flatMap fun s => s.properties.map Property.type
  | .enum _ => []

/-- Every type a model mentions: its bounds, then the types of its properties. -/
def referencedTypes (m : Model) : List TypeExpr :=
  boundsOf m.typeParams ++ m.propertyTypes

end Model

/-- The role of a port. -/
inductive PortKind where
  | repository
  | service
  | useCase
  | eventHandler
  | generic
deriving DecidableEq, Repr, Inhabited

/-- A contract at the boundary of the domain. -/
structure Port where
  name : String
  package : String := ""
  typeParams : List TypeParameter := []
  methods : List Method := []
  superTypes : List TypeExpr := []
  kind : PortKind := .generic
deriving DecidableEq, Repr, Inhabited

/-- The name of a port with its package. -/
def Port.qualifiedName (p : Port) : String :=
  DottedName.qualify p.package p.name

/-- Every type a port mentions: bounds, supertypes, then the signatures of its methods. -/
def Port.referencedTypes (p : Port) : List TypeExpr :=
  boundsOf p.typeParams ++ p.superTypes ++ p.methods.flatMap Method.signatureTypes

/-- The kind of infrastructure an adapter depends on. -/
inductive InfrastructureCategory where
  | database
  | messageQueue
  | http
  | generic
deriving DecidableEq, Repr, Inhabited

/-- Infrastructure that an adapter receives. -/
structure Infrastructure where
  category : InfrastructureCategory := .generic
  name : String
  type : TypeExpr
deriving DecidableEq, Repr, Inhabited

/-- The constructor parameter that receives the infrastructure. -/
def Infrastructure.asParameter (i : Infrastructure) : Parameter :=
  { name := i.name, type := i.type }

/-- The role of an adapter. -/
inductive AdapterKind where
  | persistence
  | messaging
  | rest
  | event
  | generic
deriving DecidableEq, Repr, Inhabited

/-- A binding of a port to infrastructure. -/
structure Adapter where
  name : String
  package : String := ""
  implements : TypeExpr
  infrastructure : List Infrastructure := []
  others : List Parameter := []
  kind : AdapterKind := .generic
deriving DecidableEq, Repr, Inhabited

namespace Adapter

/-- The name of an adapter with its package. -/
def qualifiedName (a : Adapter) : String :=
  DottedName.qualify a.package a.name

/-- The constructor of an adapter takes its infrastructure first, then the other dependencies. -/
def constructorParams (a : Adapter) : List Parameter :=
  a.infrastructure.map Infrastructure.asParameter ++ a.others

end Adapter

/-- A port that a service depends on. -/
structure PortDependency where
  port : TypeExpr
  name : String
  doc? : Option String := none
deriving DecidableEq, Repr, Inhabited

/-- The constructor parameter that receives the port. -/
def PortDependency.asParameter (d : PortDependency) : Parameter :=
  { name := d.name, type := d.port }

/-- Application logic that depends on ports. -/
structure Service where
  name : String
  package : String := ""
  ports : List PortDependency := []
  others : List Parameter := []
  methods : List Method := []
  annotations : List String := []
deriving DecidableEq, Repr, Inhabited

namespace Service

/-- The name of a service with its package. -/
def qualifiedName (s : Service) : String :=
  DottedName.qualify s.package s.name

/-- The constructor of a service takes its ports first, then the other dependencies. -/
def constructorParams (s : Service) : List Parameter :=
  s.ports.map PortDependency.asParameter ++ s.others

end Service

end Blueprint
