import Blueprint.Kotlin.Comment
import Blueprint.Kotlin.Override
import Blueprint.Kotlin.Signature

/-!
# Declarations in Kotlin

Each declaration becomes a block of lines.  Models become data classes, value classes, sealed
interfaces and enum classes; ports become interfaces; adapters and services become classes.
-/

namespace Blueprint.Kotlin

open Blueprint.Text

/-- The body of a method for which the document gives none. -/
def placeholderBody : String :=
  "TODO(\"Not yet migrated\")"

/-- The properties that have documentation, with it. -/
def documented (properties : List Property) : List (String × String) :=
  properties.filterMap fun p => p.doc?.map (p.name, ·)

/-- A class with properties: its comment, and its head with the properties as constructor
parameters.  A class without properties is a plain class. -/
def recordLines (plan : NamePlan) (layout : Layout) (keyword name : String)
    (typeParams : List TypeParameter) (properties : List Property) (conformance : String) :
    List Line :=
  let keyword := if properties.isEmpty then "class" else keyword
  propertyComment (documented properties) ++
    parameterList layout (keyword ++ " " ++ escape name ++ genericClause plan typeParams)
      (properties.map (propertyText plan)) (conformance ++ whereClause plan typeParams)

/-- The keyword of an ordinary class with properties. -/
def dataKeyword : String := "data class"

/-- The keyword of a class that wraps one value. -/
def valueKeyword : String := "@JvmInline value class"

/-- Whether the properties are exactly one, and that one read-only. -/
def wrapsOneValue : List Property → Bool
  | [p] => p.readOnly
  | _ => false

/-- The keyword of a value object. -/
def valueObjectKeyword (layout : Layout) (wrapper : Bool) (properties : List Property) : String :=
  if wrapper && wrapsOneValue properties && layout.inlineValueClasses then valueKeyword
  else dataKeyword

/-- One alternative of a sealed hierarchy: an object if it has neither properties nor type
variables. -/
def variantLines (plan : NamePlan) (layout : Layout) (typeParams : List TypeParameter)
    (conformance : String) (v : Variant) : List Line :=
  if v.properties.isEmpty && typeParams.isEmpty then
    [line ("data object " ++ escape v.name ++ conformance)]
  else recordLines plan layout dataKeyword v.name typeParams v.properties conformance

/-- A model. -/
def modelLines (plan : NamePlan) (layout : Layout) (m : Model) : List Line :=
  match m.shape with
  | .valueObject typeParams properties wrapper =>
    recordLines plan layout (valueObjectKeyword layout wrapper properties) m.name typeParams
      properties ""
  | .entity typeParams properties =>
    recordLines plan layout dataKeyword m.name typeParams properties ""
  | .sealedHierarchy typeParams variants =>
    let head := "sealed interface " ++ escape m.name ++ genericClause plan typeParams ++
      whereClause plan typeParams
    let conformance := " : " ++ escape m.name ++ forwardedArgs typeParams
    separated ([line head] :: variants.map (variantLines plan layout typeParams conformance))
  | .enum [] => [line ("enum class " ++ escape m.name)]
  | .enum values =>
    line ("enum class " ++ escape m.name ++ " \x7b") ::
      indented (commaLines layout.trailingCommas (values.map escape)) ++ [line "\x7d"]

/-- The lines of a method body, or the placeholder. -/
def bodyLines (body? : Option String) : List Line :=
  let body := trimEnd (body?.getD "").toList
  if body.isEmpty then [line placeholderBody]
  else (lines body).map fun l => line (String.ofList (trimEnd l))

/-- Where a method stands, which decides how it is written. -/
inductive MemberMode where
  /-- In an interface: an abstract method has no body. -/
  | inInterface
  /-- In a class: every method has a body. -/
  | inClass
  /-- In a class that implements a port. -/
  | overriding
deriving DecidableEq, Repr, Inhabited

/-- A method with its comment and annotations. -/
def methodLines (plan : NamePlan) (mode : MemberMode) (m : Method) : List Line :=
  let head := methodHead plan (mode = .overriding) m
  let body :=
    if mode = .inInterface ∧ m.isAbstract then [line head]
    else line (head ++ " \x7b") :: indented (bodyLines m.body?) ++ [line "\x7d"]
  (m.doc?.elim [] docComment) ++ m.annotations.map (line ∘ annotationText) ++ body

/-- The methods of a class or interface, one empty line apart. -/
def memberLines (plan : NamePlan) (mode : MemberMode) (methods : List Method) : List Line :=
  indented (separated (methods.map (methodLines plan mode)))

/-- A port. -/
def portLines (plan : NamePlan) (p : Port) : List Line :=
  let supers :=
    if p.superTypes.isEmpty then "" else " : " ++ ", ".intercalate (typeTexts plan p.superTypes)
  let head := "interface " ++ escape p.name ++ genericClause plan p.typeParams ++ supers ++
    whereClause plan p.typeParams
  if p.methods.isEmpty then [line head]
  else line (head ++ " \x7b") :: memberLines plan .inInterface p.methods ++ [line "\x7d"]

/-- An adapter.  `port?` is the port it implements, if that is known. -/
def adapterLines (plan : NamePlan) (layout : Layout) (a : Adapter) (port? : Option Port) :
    List Line :=
  let overrides := a.overrides port?
  let entries := a.constructorParams.map fun p => "private val " ++ parameterText plan p
  let head := "class " ++ escape a.name
  let tail := " : " ++ typeText plan a.implements ++ (if overrides.isEmpty then "" else " \x7b")
  (if entries.isEmpty then [line (head ++ tail)] else parameterList layout head entries tail) ++
    if overrides.isEmpty then [] else memberLines plan .overriding overrides ++ [line "\x7d"]

/-- The ports of a service that have documentation, with it. -/
def documentedPorts (ports : List PortDependency) : List (String × String) :=
  ports.filterMap fun d => d.doc?.map (d.name, ·)

/-- A service. -/
def serviceLines (plan : NamePlan) (layout : Layout) (s : Service) : List Line :=
  let entries := s.constructorParams.map fun p => "val " ++ parameterText plan p
  let tail := if s.methods.isEmpty then "" else " \x7b"
  propertyComment (documentedPorts s.ports) ++ s.annotations.map (line ∘ annotationText) ++
    parameterList layout ("class " ++ escape s.name) entries tail ++
    if s.methods.isEmpty then [] else memberLines plan .inClass s.methods ++ [line "\x7d"]

end Blueprint.Kotlin
