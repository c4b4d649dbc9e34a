import Blueprint.TypeExpr.Basic

/-!
# Types in document spelling

The spelling of types that documents use and messages show: `Map[String, Option[User]]`,
`(Int) => Unit`.  Every list is shown as `List`, and a type variable by its name alone.
-/

namespace Blueprint.TypeExpr

mutual

/-- The spelling of a type. -/
def display : TypeExpr → String
  | .primitive p => p.name
  | .named name [] => name
  | .named name (arg :: args) => name ++ "[" ++ displayAll (arg :: args) ++ "]"
  | .parameter name _ => name
  | .nullable t => "Option[" ++ display t ++ "]"
  | .list t => "List[" ++ display t ++ "]"
  | .set t => "Set[" ++ display t ++ "]"
  | .map k v => "Map[" ++ display k ++ ", " ++ display v ++ "]"
  | .function params result => "(" ++ displayAll params ++ ") => " ++ display result

/-- The spellings of several types, with commas between them. -/
def displayAll : List TypeExpr → String
  | [] => ""
  | [t] => display t
  | t :: u :: ts => display t ++ ", " ++ displayAll (u :: ts)

end

theorem displayAll_eq_intercalate : ∀ ts : List TypeExpr,
    displayAll ts = ", ".intercalate (ts.map display)
  | [] => rfl
  | [t] => by simp [displayAll]
  | t :: u :: ts => by
    rw [displayAll, displayAll_eq_intercalate (u :: ts)]
    simp [String.intercalate_cons_cons]

end Blueprint.TypeExpr
