import Blueprint.Kotlin.DeclarationText

/-!
# Pieces of Kotlin files

What can be written on its own: a declaration, or a whole unit.  A unit is a sequence of blocks with
one empty line between them: the package, the imports, then its declarations in order.  Its name
plan sees every type that some declaration writes.
-/

namespace Blueprint

/-- Every type that the declarations of a unit mention, in order; an adapter also mentions those of
the methods it overrides. -/
def SourceUnit.mentionedTypes (u : SourceUnit) : List TypeExpr :=
  u.models.flatMap Model.referencedTypes ++ u.ports.flatMap Port.referencedTypes ++
    u.adapters.flatMap (fun a =>
      a.implements :: a.constructorParams.map Parameter.type ++
        (a.overrides (u.portOf? a)).flatMap Method.signatureTypes) ++
    u.services.flatMap fun s =>
      s.constructorParams.map Parameter.type ++ s.methods.flatMap Method.signatureTypes

/-- The name plan of a unit's file. -/
def SourceUnit.namePlan (u : SourceUnit) : Kotlin.NamePlan :=
  .ofTypes u.mentionedTypes u.package u.topLevelNames

/-- The paths that a unit's file imports, sorted. -/
def SourceUnit.imports (u : SourceUnit) : List String :=
  u.namePlan.imports

namespace Kotlin

/-- The package line and the import lines of a unit's file, each group a block. -/
def headerBlocks (u : SourceUnit) : List (List Line) :=
  (if u.package.isEmpty then [] else [[line ("package " ++ escapePath u.package)]]) ++
    if u.imports.isEmpty then []
    else [u.imports.map fun path => line ("import " ++ escapePath path)]

/-- The declarations of a unit, each a block. -/
def declarationBlocks (plan : NamePlan) (layout : Layout) (u : SourceUnit) : List (List Line) :=
  u.models.map (modelLines plan layout) ++ u.ports.map (portLines plan) ++
    u.adapters.map (fun a => adapterLines plan layout a (u.portOf? a)) ++
    u.services.map (serviceLines plan layout)

/-- All blocks of a unit's file. -/
def fileBlocks (layout : Layout) (u : SourceUnit) : List (List Line) :=
  (if layout.fileHeader then headerBlocks u else []) ++ declarationBlocks u.namePlan layout u

/-- The lines of a unit's file. -/
def fileLines (layout : Layout) (u : SourceUnit) : List Line :=
  separated (fileBlocks layout u)

/-- Something that can be written on its own. -/
inductive Piece where
  | model (m : Model)
  | port (p : Port)
  | adapter (a : Adapter) (port? : Option Port)
  | service (s : Service)
  | unit (u : SourceUnit)

/-- The lines of a piece under a name plan; a whole unit brings its own. -/
def Piece.lines (plan : NamePlan) (layout : Layout) : Piece → List Line
  | .model m => modelLines plan layout m
  | .port p => portLines plan p
  | .adapter a port? => adapterLines plan layout a port?
  | .service s => serviceLines plan layout s
  | .unit u => fileLines layout u

/-- The text of a piece under a name plan. -/
def Piece.text (plan : NamePlan) (layout : Layout) (p : Piece) : String :=
  linesText layout.indentWidth (p.lines plan layout)

/-- The text of a piece written on its own, every named type by its simple name. -/
def Piece.render (layout : Layout) (p : Piece) : String :=
  p.text {} layout

end Kotlin

end Blueprint
