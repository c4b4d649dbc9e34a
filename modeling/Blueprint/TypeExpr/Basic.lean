import Blueprint.DottedName

/-!
# Type expressions

The types that declarations mention: scalars, named types with arguments, type variables, nullable
types, the three collections and functions.  Equality is structural.
-/

namespace Blueprint

/-- The built-in scalar types. -/
inductive Primitive where
  | int
  | long
  | double
  | float
  | boolean
  | string
  | unit
deriving DecidableEq, Repr, Inhabited

namespace Primitive

/-- Every scalar type. -/
def all : List Primitive :=
  [.int, .long, .double, .float, .boolean, .string, .unit]

/-- The name of a scalar type, the same in documents and in Kotlin. -/
def name : Primitive → String
  | .int => "Int"
  | .long => "Long"
  | .double => "Double"
  | .float => "Float"
  | .boolean => "Boolean"
  | .string => "String"
  | .unit => "Unit"

/-- The scalar type of a name. -/
def ofName? (name : String) : Option Primitive :=
  all.find? (·.name = name)

theorem ofName?_name (p : Primitive) : ofName? p.name = some p := by
  cases p <;> decide

theorem name_of_ofName? {s : String} {p : Primitive} (h : ofName? s = some p) : p.name = s := by
  simpa using List.find?_some h

end Primitive

/-- A type expression. -/
inductive TypeExpr where
  | primitive (type : Primitive)
  /-- A named type, by its bare name or its path, with its arguments. -/
  | named (name : String) (args : List TypeExpr)
  /-- A type variable with its upper bounds. -/
  | parameter (name : String) (bounds : List TypeExpr)
  | nullable (of : TypeExpr)
  | list (of : TypeExpr)
  | set (of : TypeExpr)
  | map (key value : TypeExpr)
  | function (params : List TypeExpr) (result : TypeExpr)
deriving Repr, Inhabited

namespace TypeExpr

mutual

/-- Structural equality of two types. -/
def beq : TypeExpr → TypeExpr → Bool
  | .primitive p, .primitive q => p == q
  | .named n as, .named m bs => n == m && beqAll as bs
  | .parameter n as, .parameter m bs => n == m && beqAll as bs
  | .nullable a, .nullable b => beq a b
  | .list a, .list b => beq a b
  | .set a, .set b => beq a b
  | .map a b, .map c d => beq a c && beq b d
  | .function as a, .function bs b => beqAll as bs && beq a b
  | _, _ => false

/-- `beq` on lists of types. -/
def beqAll : List TypeExpr → List TypeExpr → Bool
  | [], [] => true
  | a :: as, b :: bs => beq a b && beqAll as bs
  | _, _ => false

end

mutual

theorem beq_iff : ∀ a b : TypeExpr, beq a b = true ↔ a = b
  | .primitive p, b => by cases b <;> simp [beq]
  | .named n as, b => by cases b <;> simp [beq, beqAll_iff as]
  | .parameter n as, b => by cases b <;> simp [beq, beqAll_iff as]
  | .nullable a, b => by cases b <;> simp [beq, beq_iff a]
  | .list a, b => by cases b <;> simp [beq, beq_iff a]
  | .set a, b => by cases b <;> simp [beq, beq_iff a]
  | .map a c, b => by cases b <;> simp [beq, beq_iff a, beq_iff c]
  | .function as a, b => by cases b <;> simp [beq, beqAll_iff as, beq_iff a]

theorem beqAll_iff : ∀ as bs : List TypeExpr, beqAll as bs = true ↔ as = bs
  | [], bs => by cases bs <;> simp [beqAll]
  | a :: as, bs => by cases bs <;> simp [beqAll, beq_iff a, beqAll_iff as]

end

instance : DecidableEq TypeExpr := fun a b => decidable_of_iff _ (beq_iff a b)

/-- The type of methods that return nothing. -/
def unit : TypeExpr := .primitive .unit

/-- Whether the outermost constructor is `nullable`. -/
def isNullable : TypeExpr → Bool
  | .nullable _ => true
  | _ => false

/-- The type, made nullable unless it already is. -/
def makeNullable (t : TypeExpr) : TypeExpr :=
  if t.isNullable then t else .nullable t

/-- The type without its outermost `nullable`, if it has one. -/
def makeNonNullable : TypeExpr → TypeExpr
  | .nullable t => t
  | t => t

/-- Whether the type is the scalar `Unit`. -/
def isUnit : TypeExpr → Bool
  | .primitive .unit => true
  | _ => false

/-- The last segment of the name of a named type, or the name of a type variable. -/
def simpleName? : TypeExpr → Option String
  | .named name _ => some (DottedName.simple name)
  | .parameter name _ => some name
  | _ => none

theorem isNullable_makeNullable (t : TypeExpr) : t.makeNullable.isNullable = true := by
  unfold makeNullable
  split <;> simp_all [isNullable]

theorem makeNullable_of_isNullable {t : TypeExpr} (h : t.isNullable = true) :
    t.makeNullable = t := by
  simp [makeNullable, h]

end TypeExpr

/-- A type variable that a class, an interface or a method declares. -/
structure TypeParameter where
  name : String
  bounds : List TypeExpr := []
deriving DecidableEq, Repr, Inhabited

/-- The type that a mention of the variable denotes. -/
def TypeParameter.asType (p : TypeParameter) : TypeExpr :=
  .parameter p.name p.bounds

end Blueprint
