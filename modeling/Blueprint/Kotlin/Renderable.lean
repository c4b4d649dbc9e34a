import Blueprint.Repeat
import Blueprint.SourceUnit

/-!
# Renderable units

The writer assumes that no name is declared twice where Kotlin allows it once: among the top-level
classes of a file, the properties of a class, the values of an enum and the parameters of a
constructor.  `checkRenderable` finds the first place that breaks this.
-/

namespace Blueprint

/-- What a repeated name names. -/
inductive DeclaredThing where
  | topLevelClass
  | property
  | enumValue
  | constructorParameter
deriving DecidableEq, Repr, Inhabited

/-- How messages call it. -/
def DeclaredThing.label : DeclaredThing → String
  | .topLevelClass => "top-level class"
  | .property => "property"
  | .enumValue => "value"
  | .constructorParameter => "constructor parameter"

/-- A name declared more than once by one owner. -/
structure Redeclaration where
  owner : String
  thing : DeclaredThing
  name : String
deriving DecidableEq, Repr, Inhabited

/-- The finding in words. -/
def Redeclaration.message (r : Redeclaration) : String :=
  r.owner ++ " declares " ++ r.thing.label ++ " '" ++ r.name ++ "' more than once"

/-- A list of names that must not repeat, with whom and what they belong to. -/
structure Scope where
  owner : String
  thing : DeclaredThing
  names : List String

/-- The first repeated name of a scope. -/
def Scope.redeclaration? (s : Scope) : Option Redeclaration :=
  (firstRepeat s.names).map (⟨s.owner, s.thing, ·⟩)

/-- The scopes inside a model. -/
def Model.scopes (m : Model) : List Scope :=
  match m.shape with
  | .valueObject _ properties _ => [⟨m.qualifiedName, .property, properties.map Property.name⟩]
  | .entity _ properties => [⟨m.qualifiedName, .property, properties.map Property.name⟩]
  | .sealedHierarchy _ variants => variants.map fun v =>
      ⟨m.qualifiedName ++ "." ++ v.name, .property, v.properties.map Property.name⟩
  | .enum values => [⟨m.qualifiedName, .enumValue, values⟩]

namespace SourceUnit

/-- How messages call the package of a unit. -/
def packageLabel (u : SourceUnit) : String :=
  if u.package.isEmpty then "the default package" else u.package

/-- All scopes of a unit, in the order in which they are checked. -/
def scopes (u : SourceUnit) : List Scope :=
  ⟨u.packageLabel, .topLevelClass, u.topLevelNames⟩ :: u.models.flatMap Model.scopes ++
    u.adapters.map (fun a =>
      ⟨a.qualifiedName, .constructorParameter, a.constructorParams.map Parameter.name⟩) ++
    u.services.map fun s =>
      ⟨s.qualifiedName, .constructorParameter, s.constructorParams.map Parameter.name⟩

/-- Succeeds if the writer's assumptions hold for the unit. -/
def checkRenderable (u : SourceUnit) : Except Redeclaration Unit :=
  match u.scopes.findSome? Scope.redeclaration? with
  | some r => .error r
  | none => .ok ()

end SourceUnit

end Blueprint
