import Blueprint.SourceUnit

/-!
# Projects

A project is a forest of modules.  A module holds the declarations of one unit and its submodules;
whole-project views walk the forest with every parent before its children.
-/

namespace Blueprint

/-- A named unit with its submodules. -/
structure ProjectModule where
  name : String
  unit : SourceUnit := {}
  children : List ProjectModule := []
deriving Repr, Inhabited

namespace ProjectModule

/-- The module of a single unit. -/
def ofUnit (name : String) (unit : SourceUnit) : ProjectModule :=
  { name, unit }

/-- The model of that bare name among the module's own declarations. -/
def findModel? (m : ProjectModule) (name : String) : Option Model :=
  m.unit.models.find? (·.name = name)

/-- The port of that bare name among the module's own declarations. -/
def findPort? (m : ProjectModule) (name : String) : Option Port :=
  m.unit.ports.find? (·.name = name)

mutual

/-- The names of everything that a module and its submodules declare. -/
def allTypes : ProjectModule → List String
  | ⟨_, unit, children⟩ => unit.declaredNames ++ allTypesOf children

/-- `allTypes` of several modules, one after the other. -/
def allTypesOf : List ProjectModule → List String
  | [] => []
  | m :: ms => allTypes m ++ allTypesOf ms

end

mutual

/-- A module and everything below it, parents before their children. -/
def subtree : ProjectModule → List ProjectModule
  | ⟨name, unit, children⟩ => ⟨name, unit, children⟩ :: subtreesOf children

/-- The subtrees of several modules, one after the other. -/
def subtreesOf : List ProjectModule → List ProjectModule
  | [] => []
  | m :: ms => subtree m ++ subtreesOf ms

end

end ProjectModule

/-- A project. -/
structure Project where
  name : String
  rootPackage : String := ""
  modules : List ProjectModule := []
  metadata : List (String × String) := []
deriving Repr, Inhabited

namespace Project

/-- Every module of the project, parents before their children. -/
def allModules (p : Project) : List ProjectModule :=
  ProjectModule.subtreesOf p.modules

/-- The models of all modules. -/
def allModels (p : Project) : List Model :=
  p.allModules.flatMap (·.unit.models)

/-- The ports of all modules. -/
def allPorts (p : Project) : List Port :=
  p.allModules.flatMap (·.unit.ports)

/-- The adapters of all modules. -/
def allAdapters (p : Project) : List Adapter :=
  p.allModules.flatMap (·.unit.adapters)

/-- The services of all modules. -/
def allServices (p : Project) : List Service :=
  p.allModules.flatMap (·.unit.services)

/-- The project with one more module at its end. -/
def addModule (p : Project) (m : ProjectModule) : Project :=
  { p with modules := p.modules ++ [m] }

end Project

end Blueprint
