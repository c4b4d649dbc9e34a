import Blueprint.TypeExpr.Basic

/-!
# Wrappers

Some named types only wrap a value: an optional wrapper says that the value may be missing, an
effect wrapper that it is computed by an effect.  They are recognised by their simple name, in any
package.  An optional wrapper has exactly one argument; an effect wrapper has one or more, and the
last is the value.
-/

namespace Blueprint.TypeExpr

/-- The simple names of effect wrappers. -/
def effectNames : List String :=
  ["Effect", "F", "Future", "IO", "RIO", "Task", "UIO", "URIO", "ZIO"]

/-- The simple names of optional wrappers. -/
def optionNames : List String :=
  ["Maybe", "Option", "Optional"]

/-- What a wrapper says about its value. -/
inductive Wrapper where
  | optional
  | effect
deriving DecidableEq, Repr, Inhabited

/-- The wrapper that a name with a number of arguments is. -/
def Wrapper.ofName? (name : String) (arity : Nat) : Option Wrapper :=
  if arity = 1 ∧ DottedName.simple name ∈ optionNames then some .optional
  else if 0 < arity ∧ DottedName.simple name ∈ effectNames then some .effect
  else none

/-- The wrapper around a type, if it has one. -/
def wrapper? : TypeExpr → Option Wrapper
  | .named name args => Wrapper.ofName? name args.length
  | _ => none

/-- The arguments of a named type. -/
def args : TypeExpr → List TypeExpr
  | .named _ args => args
  | _ => []

/-- The value that an effect wrapper wraps. -/
def effectValue? (t : TypeExpr) : Option TypeExpr :=
  if t.wrapper? = some .effect then t.args.getLast? else none

/-- The value that an optional wrapper wraps. -/
def optionValue? (t : TypeExpr) : Option TypeExpr :=
  if t.wrapper? = some .optional then t.args.head? else none

/-- How the declared return type of a method shows in a signature. -/
structure ReturnShape where
  /-- The method suspends. -/
  isSuspend : Bool
  /-- The type that the signature names, if it names one. -/
  value? : Option TypeExpr
deriving DecidableEq, Repr, Inhabited

/-- The return type without its effect wrapper.  `Unit`, wrapped or not, is not named. -/
def eraseReturn (t : TypeExpr) : ReturnShape :=
  match t.effectValue? with
  | some value => ⟨true, if value.isUnit then none else some value⟩
  | none => ⟨false, if t.isUnit then none else some t⟩

end Blueprint.TypeExpr
