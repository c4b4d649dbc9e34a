import Blueprint.TypeExpr.Basic

/-!
# Substitution

Type variables are replaced by name.  A nullable type stays nullable once: replacing a variable
under `nullable` by a nullable type adds no second layer.
-/

namespace Blueprint.TypeExpr

/-- The types that stand for some type variables. -/
abbrev Bindings := String → Option TypeExpr

/-- The bindings of a list of pairs; of two pairs for one name the later counts. -/
def Bindings.ofPairs (pairs : List (String × TypeExpr)) : Bindings :=
  fun name => (pairs.reverse.find? (·.1 = name)).map (·.2)

mutual

/-- The type with the bound variables replaced. -/
def substitute (bindings : Bindings) : TypeExpr → TypeExpr
  | .primitive p => .primitive p
  | .named name args => .named name (substituteAll bindings args)
  | .parameter name bounds =>
    match bindings name with
    | some t => t
    | none => .parameter name (substituteAll bindings bounds)
  | .nullable t => (substitute bindings t).makeNullable
  | .list t => .list (substitute bindings t)
  | .set t => .set (substitute bindings t)
  | .map k v => .map (substitute bindings k) (substitute bindings v)
  | .function params result =>
    .function (substituteAll bindings params) (substitute bindings result)

/-- `substitute` on lists of types. -/
def substituteAll (bindings : Bindings) : List TypeExpr → List TypeExpr
  | [] => []
  | t :: ts => substitute bindings t :: substituteAll bindings ts

end

theorem substituteAll_eq_map (bindings : Bindings) (ts : List TypeExpr) :
    substituteAll bindings ts = ts.map (substitute bindings) := by
  induction ts with
  | nil => rfl
  | cons t ts ih => simp [substituteAll, ih]

end Blueprint.TypeExpr
