import Blueprint.Kotlin.Identifier
import Blueprint.NameSet
import Blueprint.TypeExpr.Wrapper

/-!
# Name plans

How the named types of one file are imported and spelled.  Each simple name is owned by one path:
the unit's own declaration if there is one, else the least path in play.  The owner is imported when
it lives in another package and is spelled by its simple name; every other path with that simple
name is written out in full and not imported.
-/

namespace Blueprint.Kotlin

open Blueprint.TypeExpr (Wrapper)

/-- Well-known types and where Kotlin finds them, by bare name. -/
def knownPaths : List (String × String) :=
  [("BigDecimal", "java.math.BigDecimal"), ("BigInteger", "java.math.BigInteger"),
   ("Currency", "java.util.Currency"), ("Duration", "java.time.Duration"),
   ("Instant", "java.time.Instant"), ("LocalDate", "java.time.LocalDate"),
   ("LocalDateTime", "java.time.LocalDateTime"), ("LocalTime", "java.time.LocalTime"),
   ("Locale", "java.util.Locale"), ("OffsetDateTime", "java.time.OffsetDateTime"),
   ("URI", "java.net.URI"), ("UUID", "java.util.UUID"), ("ZoneId", "java.time.ZoneId"),
   ("ZonedDateTime", "java.time.ZonedDateTime")]

/-- Where Kotlin finds the well-known type of a bare name. -/
def knownPath? (name : String) : Option String :=
  knownPaths.lookup name

/-- The path that a written name denotes in a unit of `package` which declares `declared`.  A dotted
name is a path already.  A bare name is the unit's own if the unit declares it, else a well-known
type, else again of the unit's package. -/
def resolveName (package : String) (declared : List String) (name : String) : String :=
  if (DottedName.package? name).isSome then name
  else if name ∈ declared then DottedName.qualify package name
  else (knownPath? name).getD (DottedName.qualify package name)

mutual

/-- The names that the Kotlin text of a type spells.  Of a wrapper only the value is written. -/
def writtenNames : TypeExpr → List String
  | .primitive _ => []
  | .named name args =>
    match Wrapper.ofName? name args.length with
    | some _ => (writtenNamesOf args).getLastD []
    | none => name :: (writtenNamesOf args).flatten
  | .parameter _ bounds => (writtenNamesOf bounds).flatten
  | .nullable t => writtenNames t
  | .list t => writtenNames t
  | .set t => writtenNames t
  | .map k v => writtenNames k ++ writtenNames v
  | .function params result => (writtenNamesOf params).flatten ++ writtenNames result

/-- `writtenNames` of each type of a list. -/
def writtenNamesOf : List TypeExpr → List (List String)
  | [] => []
  | t :: ts => writtenNames t :: writtenNamesOf ts

end

theorem writtenNamesOf_eq_map (ts : List TypeExpr) : writtenNamesOf ts = ts.map writtenNames := by
  induction ts with
  | nil => rfl
  | cons t ts ih => simp [writtenNamesOf, ih]

/-- How the named types of one file are imported and spelled. -/
structure NamePlan where
  /-- The package of the file. -/
  package : String := ""
  /-- The simple names that the file declares itself. -/
  declared : List String := []
  /-- The paths in play: those declared and those written, as a sorted set. -/
  paths : List String := []
deriving DecidableEq, Repr, Inhabited

namespace NamePlan

/-- The plan of a file of `package` that declares `declared` and writes `types`. -/
def ofTypes (types : List TypeExpr) (package : String) (declared : List String) : NamePlan where
  package
  declared
  paths := NameSet.ofList
    (declared.map (DottedName.qualify package) ++
      (types.flatMap writtenNames).map (resolveName package declared))

/-- The path that a written name denotes. -/
def resolve (plan : NamePlan) (name : String) : String :=
  resolveName plan.package plan.declared name

/-- The paths in play that share a simple name, least first. -/
def claimants (plan : NamePlan) (simple : String) : List String :=
  plan.paths.filter (DottedName.simple · = simple)

/-- The path that the bare simple name denotes in the file. -/
def owner (plan : NamePlan) (simple : String) : String :=
  let own := DottedName.qualify plan.package simple
  if own ∈ plan.claimants simple then own else (plan.claimants simple).headD own

/-- Whether a path owns its simple name. -/
def isOwner (plan : NamePlan) (path : String) : Bool :=
  plan.owner (DottedName.simple path) = path

/-- Whether a path lies in a package, and in another one than the file's. -/
def isForeign (plan : NamePlan) (path : String) : Bool :=
  match DottedName.package? path with
  | some package => package != plan.package
  | none => false

/-- The paths that the file imports, sorted. -/
def imports (plan : NamePlan) : List String :=
  plan.paths.filter fun path => plan.isOwner path && plan.isForeign path

/-- Whether a path has to be written out in full. -/
def inFull (plan : NamePlan) (path : String) : Bool :=
  path ∈ plan.paths && !plan.isOwner path

/-- A written name as the file spells it. -/
def spelling (plan : NamePlan) (name : String) : String :=
  if plan.inFull (plan.resolve name) then escapePath (plan.resolve name)
  else escape (DottedName.simple name)

end NamePlan

end Blueprint.Kotlin
