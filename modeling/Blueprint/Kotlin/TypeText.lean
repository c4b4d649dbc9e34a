import Blueprint.Kotlin.NamePlan

/-!
# Types in Kotlin

An optional wrapper and a nullable type both become `T?`, and never `T??`.  An effect wrapper
becomes a suspending function without parameters.  A function type takes parentheses before a
question mark.
-/

namespace Blueprint.Kotlin

open Blueprint.TypeExpr (Wrapper)

/-- Whether the Kotlin text of a type ends in a question mark that marks the type itself. -/
def rendersNullable (t : TypeExpr) : Bool :=
  t.isNullable || t.wrapper? == some .optional

/-- Whether the Kotlin text of a type is a function type. -/
def rendersFunction : TypeExpr → Bool
  | .function .. => true
  | t => t.wrapper? == some .effect

/-- The text of a nullable type, given the type inside and its text. -/
def nullableText (inner : TypeExpr) (text : String) : String :=
  if rendersNullable inner then text
  else if rendersFunction inner then "(" ++ text ++ ")?"
  else text ++ "?"

mutual

/-- The Kotlin text of a type in a file with the given name plan. -/
def typeText (plan : NamePlan) : TypeExpr → String
  | .primitive p => p.name
  | .named name args =>
    match Wrapper.ofName? name args.length with
    | some .optional => nullableText (args.headD .unit) ((typeTexts plan args).headD "")
    | some .effect => "suspend () -> " ++ (typeTexts plan args).getLastD ""
    | none =>
      if args.isEmpty then plan.spelling name
      else plan.spelling name ++ "<" ++ ", ".intercalate (typeTexts plan args) ++ ">"
  | .parameter name _ => escape name
  | .nullable t => nullableText t (typeText plan t)
  | .list t => "List<" ++ typeText plan t ++ ">"
  | .set t => "Set<" ++ typeText plan t ++ ">"
  | .map k v => "Map<" ++ typeText plan k ++ ", " ++ typeText plan v ++ ">"
  | .function params result =>
    "(" ++ ", ".intercalate (typeTexts plan params) ++ ") -> " ++ typeText plan result

/-- The Kotlin texts of several types. -/
def typeTexts (plan : NamePlan) : List TypeExpr → List String
  | [] => []
  | t :: ts => typeText plan t :: typeTexts plan ts

end

theorem typeTexts_eq_map (plan : NamePlan) (ts : List TypeExpr) :
    typeTexts plan ts = ts.map (typeText plan) := by
  induction ts with
  | nil => rfl
  | cons t ts ih => simp [typeTexts, ih]

end Blueprint.Kotlin
