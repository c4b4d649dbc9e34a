import Blueprint.Declaration

/-!
# Source units

The declarations of one document, in the order in which they are written out: models, ports,
adapters, services.
-/

namespace Blueprint

/-- The declarations of one document. -/
structure SourceUnit where
  package : String := ""
  models : List Model := []
  ports : List Port := []
  adapters : List Adapter := []
  services : List Service := []
deriving DecidableEq, Repr, Inhabited

namespace SourceUnit

/-- The number of declarations; a sealed hierarchy counts once. -/
def declarationCount (u : SourceUnit) : Nat :=
  u.models.length + u.ports.length + u.adapters.length + u.services.length

/-- Whether the unit declares nothing. -/
def isEmpty (u : SourceUnit) : Bool :=
  u.declarationCount == 0

/-- The first port whose bare or qualified name is the given one. -/
def findPort? (u : SourceUnit) (name : String) : Option Port :=
  u.ports.find? fun p => p.name == name || p.qualifiedName == name

/-- The simple names of the classes that the unit puts at the top level of its file. -/
def topLevelNames (u : SourceUnit) : List String :=
  u.models.flatMap Model.classNames ++ u.ports.map Port.name ++ u.adapters.map Adapter.name ++
    u.services.map Service.name

/-- The names of everything the unit declares, each with its own package. -/
def declaredNames (u : SourceUnit) : List String :=
  u.models.flatMap Model.declaredNames ++ u.ports.map Port.qualifiedName ++
    u.adapters.map Adapter.qualifiedName ++ u.services.map Service.qualifiedName

end SourceUnit

end Blueprint
