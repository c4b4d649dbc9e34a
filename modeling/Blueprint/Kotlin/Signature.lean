import Blueprint.Declaration
import Blueprint.Kotlin.Layout
import Blueprint.Kotlin.TypeText

/-!
# Signatures

The parts of Kotlin declarations that fit on one line: type parameters and their bounds, properties,
parameters and the heads of methods.
-/

namespace Blueprint.Kotlin

/-- Whether some type variable has more than one bound; all bounds then move to a `where` clause. -/
def needsWhere (params : List TypeParameter) : Bool :=
  params.any fun p => 1 < p.bounds.length

/-- One type variable with one of its bounds. -/
def boundText (plan : NamePlan) (name : String) (bound : TypeExpr) : String :=
  escape name ++ " : " ++ typeText plan bound

/-- One type variable between the angle brackets of its declaration. -/
def variableText (plan : NamePlan) (withBound : Bool) (p : TypeParameter) : String :=
  match p.bounds with
  | [bound] => if withBound then boundText plan p.name bound else escape p.name
  | _ => escape p.name

/-- The clause that declares type variables; empty if there are none. -/
def genericClause (plan : NamePlan) (params : List TypeParameter) : String :=
  if params.isEmpty then ""
  else "<" ++ ", ".intercalate (params.map (variableText plan (!needsWhere params))) ++ ">"

/-- The clause that bounds type variables, when some of them has several bounds. -/
def whereClause (plan : NamePlan) (params : List TypeParameter) : String :=
  if needsWhere params then
    " where " ++ ", ".intercalate
      (params.flatMap fun p => p.bounds.map (boundText plan p.name))
  else ""

/-- The type variables of a declaration as arguments of a type. -/
def forwardedArgs (params : List TypeParameter) : String :=
  if params.isEmpty then ""
  else "<" ++ ", ".intercalate (params.map fun p => escape p.name) ++ ">"

/-- The modifier of a visibility, with the space after it. -/
def visibilityModifier : Visibility → String
  | .everyone => ""
  | .subclasses => "protected "
  | .owner => "private "
  | .sameModule => "internal "

/-- An annotation; the sign in front may be missing in the document. -/
def annotationText (text : String) : String :=
  if text.toList.head? = some '@' then text else "@" ++ text

/-- The default value of a property or parameter, with the equals sign. -/
def defaultText : Option String → String
  | some value => " = " ++ value
  | none => ""

/-- A parameter with its type and default value. -/
def parameterText (plan : NamePlan) (p : Parameter) : String :=
  escape p.name ++ ": " ++ typeText plan p.type ++ defaultText p.default?

/-- A property of a class as a parameter of its constructor. -/
def propertyText (plan : NamePlan) (p : Property) : String :=
  (if p.readOnly then "val " else "var ") ++
    escape p.name ++ ": " ++ typeText plan p.type ++ defaultText p.default?

/-- Whether the head of a method has the `suspend` modifier. -/
def suspends (m : Method) : Bool :=
  m.result.eraseReturn.isSuspend || m.isSuspend

/-- The head of a method.  An override states no visibility. -/
def methodHead (plan : NamePlan) (isOverride : Bool) (m : Method) : String :=
  (if isOverride then "override " else visibilityModifier m.visibility) ++
    (if suspends m then "suspend " else "") ++ "fun " ++
    (if m.typeParams.isEmpty then "" else genericClause plan m.typeParams ++ " ") ++
    escape m.name ++ "(" ++ ", ".intercalate (m.params.map (parameterText plan)) ++ ")" ++
    (match m.result.eraseReturn.value? with
      | some t => ": " ++ typeText plan t
      | none => "") ++
    whereClause plan m.typeParams

/-- A head, a parenthesised list and a tail: on one line for at most one entry, else with every
entry on a line of its own. -/
def parameterList (layout : Layout) (head : String) (entries : List String) (tail : String) :
    List Line :=
  match entries with
  | [] => [line (head ++ "()" ++ tail)]
  | [entry] => [line (head ++ "(" ++ entry ++ ")" ++ tail)]
  | entries =>
    line (head ++ "(") :: indented (commaLines layout.trailingCommas entries) ++
      [line (")" ++ tail)]

end Blueprint.Kotlin
