import Blueprint.SourceUnit
import Blueprint.TypeExpr.Substitution

/-!
# Overrides

An adapter overrides the methods of the port it implements, when its unit declares that port.  The
type variables of the port are bound to the arguments that the adapter gives.
-/

namespace Blueprint

/-- The bindings of a port's type variables that an implemented type makes. -/
def Port.bindings (p : Port) (implemented : TypeExpr) : TypeExpr.Bindings :=
  match implemented with
  | .named _ args => .ofPairs ((p.typeParams.map TypeParameter.name).zip args)
  | _ => .ofPairs []

/-- A port's method as an implementation sees it.  An override has no default values, annotations or
documentation of its own, and it is never abstract. -/
def Method.override (bindings : TypeExpr.Bindings) (m : Method) : Method :=
  { m with
    params := m.params.map fun p =>
      { name := p.name, type := p.type.substitute bindings, default? := none }
    result := m.result.substitute bindings
    annotations := []
    doc? := none
    isAbstract := false }

/-- The methods of a port as an implementation of `implemented` overrides them. -/
def Port.overrides (p : Port) (implemented : TypeExpr) : List Method :=
  p.methods.map (Method.override (p.bindings implemented))

/-- The port of the unit that an adapter implements, found by the simple name of the implemented
type. -/
def SourceUnit.portOf? (u : SourceUnit) (a : Adapter) : Option Port :=
  a.implements.simpleName?.bind u.findPort?

/-- The methods that an adapter overrides. -/
def Adapter.overrides (a : Adapter) (port? : Option Port) : List Method :=
  match port? with
  | some port => port.overrides a.implements
  | none => []

end Blueprint
