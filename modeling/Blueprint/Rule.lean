import Blueprint.Finding
import Blueprint.Pattern.Basic
import Blueprint.Repeat
import Blueprint.SourceUnit
import Blueprint.TypeExpr.Display

/-!
# Architecture rules

The rules that the models and ports of a unit have to satisfy: names match a pattern, nothing is
declared twice, an enum has values, and no port has two methods with one signature.  A broken rule
is a `Violation`; a `Doubt` is allowed but worth a warning.  A unit is valid exactly when it has no
violation; doubts never count.
-/

namespace Blueprint

/-- The rules. -/
inductive Rule where
  | uniquePropertyNames
  | uniqueDeclarationNames
  | validIdentifier
  | nonEmptyEnum
  | uniqueEnumValues
  | uniqueMethodSignature
deriving DecidableEq, Repr, Inhabited

/-- How reports call a rule. -/
def Rule.label : Rule → String
  | .uniquePropertyNames => "unique-property-names"
  | .uniqueDeclarationNames => "unique-declaration-names"
  | .validIdentifier => "valid-identifier"
  | .nonEmptyEnum => "non-empty-enum"
  | .uniqueEnumValues => "unique-enum-values"
  | .uniqueMethodSignature => "unique-method-signature"

/-- A broken rule.  `owner` is the qualified name of the declaration it is found in. -/
inductive Violation where
  | repeatedDeclaration (name : String)
  | invalidIdentifier (owner what name : String)
  | repeatedProperty (owner name : String)
  | emptyEnum (owner : String)
  | repeatedEnumValue (owner value : String)
  | repeatedMethod (owner signature : String)
deriving DecidableEq, Repr, Inhabited

namespace Violation

/-- The rule that is broken. -/
def rule : Violation → Rule
  | .repeatedDeclaration _ => .uniqueDeclarationNames
  | .invalidIdentifier .. => .validIdentifier
  | .repeatedProperty .. => .uniquePropertyNames
  | .emptyEnum _ => .nonEmptyEnum
  | .repeatedEnumValue .. => .uniqueEnumValues
  | .repeatedMethod .. => .uniqueMethodSignature

/-- The violation in words. -/
def message : Violation → String
  | .repeatedDeclaration name => name ++ " is declared more than once"
  | .invalidIdentifier owner what name =>
    owner ++ ": " ++ what ++ " '" ++ name ++ "' is not a valid identifier"
  | .repeatedProperty owner name =>
    owner ++ " declares property '" ++ name ++ "' more than once"
  | .emptyEnum owner => "Enum " ++ owner ++ " has no values"
  | .repeatedEnumValue owner value =>
    "Enum " ++ owner ++ " lists '" ++ value ++ "' more than once"
  | .repeatedMethod owner signature =>
    owner ++ " declares " ++ signature ++ " more than once"

/-- The violation as it is reported. -/
def toIssue (v : Violation) : Issue :=
  { rule := v.rule.label, message := v.message }

end Violation

/-- Something allowed but doubtful about the declaration of a qualified name. -/
inductive Doubt where
  | wrapperCount (owner : String) (count : Nat)
  | mutableWrapper (owner : String)
  | emptyHierarchy (owner : String)
  | emptyPort (owner : String)
deriving DecidableEq, Repr, Inhabited

namespace Doubt

/-- The doubt in words. -/
def message : Doubt → String
  | .wrapperCount owner count =>
    owner ++ " is marked inline but has " ++ toString count ++ " properties"
  | .mutableWrapper owner => owner ++ " is marked inline but its property is mutable"
  | .emptyHierarchy owner => "Sealed hierarchy " ++ owner ++ " has no subtypes"
  | .emptyPort owner => "Port " ++ owner ++ " has no methods"

/-- What could be done about it. -/
def suggestion : Doubt → String
  | .wrapperCount .. =>
    "Inline wrappers need exactly one property; it will render as a data class"
  | .mutableWrapper _ =>
    "Value classes hold a read-only property; it will render as a data class"
  | .emptyHierarchy _ => "Add at least one subtype or model it as a plain type"
  | .emptyPort _ => "Add the operations the port exposes, or remove it"

/-- The doubt as it is reported. -/
def toWarning (d : Doubt) : Warning :=
  { message := d.message, suggestion? := some d.suggestion }

end Doubt

namespace Rule

/-- The pattern of identifiers, unless another one is asked for. -/
def defaultPattern : String :=
  "^[A-Za-z_][A-Za-z0-9_]*$"

/-- A violation if the name does not match the pattern. -/
def checkIdentifier (identifier : Pattern) (owner what name : String) : List Violation :=
  if identifier.isMatch name then [] else [.invalidIdentifier owner what name]

/-- The violations of a list of names: each name in turn is matched against the pattern and compared
with the names before it. -/
def checkNames (identifier : Pattern) (owner what : String) (repeated : String → Violation)
    (names : List String) : List Violation :=
  (names.zip (repeatFlags names)).flatMap fun (name, isRepeat) =>
    checkIdentifier identifier owner what name ++ if isRepeat then [repeated name] else []

/-- The violations of the properties of a class. -/
def checkProperties (identifier : Pattern) (owner : String) (properties : List Property) :
    List Violation :=
  checkNames identifier owner "property" (.repeatedProperty owner) (properties.map Property.name)

/-- The violations inside a model. -/
def checkModel (identifier : Pattern) (m : Model) : List Violation :=
  let owner := m.qualifiedName
  checkIdentifier identifier owner m.kindLabel m.name ++
    match m.shape with
    | .valueObject _ properties _ => checkProperties identifier owner properties
    | .entity _ properties => checkProperties identifier owner properties
    | .sealedHierarchy _ variants => variants.flatMap fun v =>
        checkIdentifier identifier owner "subtype" v.name ++
          checkProperties identifier (owner ++ "." ++ v.name) v.properties
    | .enum values =>
      (if values.isEmpty then [.emptyEnum owner] else []) ++
        checkNames identifier owner "enum value" (.repeatedEnumValue owner) values

/-- What identifies a method among those of its port: its name and the types of its parameters. -/
def signature (m : Method) : String :=
  m.name ++ "(" ++ ", ".intercalate (m.params.map fun p => p.type.display) ++ ")"

/-- The violations inside a port. -/
def checkPort (identifier : Pattern) (p : Port) : List Violation :=
  let owner := p.qualifiedName
  checkIdentifier identifier owner "port" p.name ++
    (p.methods.zip (repeatFlags (p.methods.map signature))).flatMap fun (m, isRepeat) =>
      checkIdentifier identifier owner "method" m.name ++
        m.params.flatMap (fun q =>
          checkIdentifier identifier (owner ++ "." ++ m.name) "parameter" q.name) ++
        if isRepeat then [.repeatedMethod owner (signature m)] else []

/-- The names that the models and ports of a unit declare, variants of hierarchies included, since
these become classes of their own. -/
def declaredNames (models : List Model) (ports : List Port) : List String :=
  models.flatMap Model.declaredNames ++ ports.map Port.qualifiedName

/-- A violation for each name that repeats an earlier one. -/
def checkDeclared (names : List String) : List Violation :=
  (names.zip (repeatFlags names)).filterMap fun (name, isRepeat) =>
    if isRepeat then some (.repeatedDeclaration name) else none

/-- All violations of some models and ports. -/
def violations (identifier : Pattern) (models : List Model) (ports : List Port) :
    List Violation :=
  checkDeclared (declaredNames models ports) ++ models.flatMap (checkModel identifier) ++
    ports.flatMap (checkPort identifier)

/-- The doubts about a model. -/
def doubtModel (m : Model) : List Doubt :=
  match m.shape with
  | .valueObject _ properties true =>
    if properties.length ≠ 1 then [.wrapperCount m.qualifiedName properties.length]
    else if properties.any (! ·.readOnly) then [.mutableWrapper m.qualifiedName]
    else []
  | .sealedHierarchy _ [] => [.emptyHierarchy m.qualifiedName]
  | _ => []

/-- The doubts about a port. -/
def doubtPort (p : Port) : List Doubt :=
  if p.methods.isEmpty then [.emptyPort p.qualifiedName] else []

/-- All doubts about some models and ports. -/
def doubts (models : List Model) (ports : List Port) : List Doubt :=
  models.flatMap doubtModel ++ ports.flatMap doubtPort

/-- The verdict on some models and ports. -/
def validate (identifier : Pattern) (models : List Model) (ports : List Port) : Verdict :=
  .ofFindings ((violations identifier models ports).map Violation.toIssue)
    ((doubts models ports).map Doubt.toWarning)

end Rule

end Blueprint
