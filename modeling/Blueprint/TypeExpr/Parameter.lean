import Blueprint.TypeExpr.Reader
import Blueprint.Text.Position
import Blueprint.Text.Split

/-!
# Declarations of type variables

A type variable is declared as `T`, `+T`, `-T`, `T <: Bound` or `T <: A with B`.  The variance signs
carry no meaning here and are dropped.
-/

namespace Blueprint.TypeParameter

open Blueprint.Text
open Blueprint.TypeExpr (SyntaxError)

/-- The part of a declaration that names the variable, without blanks and variance signs. -/
def nameOf (head : List Char) : List Char :=
  trim ((trim head).dropWhile fun c => c == '+' || c == '-')

/-- Whether a text can name a type variable. -/
def isVariableName (name : List Char) : Bool :=
  !name.isEmpty && name.all fun c => isAlphanumeric c || c == '_'

/-- Reads the bounds one after the other.  A fault is reported `offset` columns further on,
whichever bound it lies in. -/
def readBounds (scope : List String) (offset : Nat) :
    List (List Char) → Except TypeExpr.Fault (List TypeExpr)
  | [] => .ok []
  | bound :: bounds =>
    match TypeExpr.read scope bound with
    | .error e => .error ⟨e.cause, e.column + offset⟩
    | .ok t => (readBounds scope offset bounds).map (t :: ·)

/-- Reads a declaration, with the faults located in the text.  The offset of the bounds is counted
in bytes. -/
def read (scope : List String) (input : List Char) : Except TypeExpr.Fault TypeParameter :=
  let parts := splitOnce ['<', ':'] input
  let name := nameOf ((parts.map Prod.fst).getD input)
  if isVariableName name then
    match parts with
    | none => .ok ⟨String.ofList name, []⟩
    | some (head, bounds) =>
      (readBounds scope (byteLength head + 2) (pieces " with ".toList bounds)).map
        (⟨String.ofList name, ·⟩)
  else .error ⟨.expectedParameterName, 1⟩

/-- The type variable that a text declares.  Its bounds may mention every name in `scope`. -/
def parse (input : String) (scope : List String) : Except SyntaxError TypeParameter :=
  (read scope input.toList).mapError (⟨·, input⟩)

/-- The name that a declaration declares, well formed or not. -/
def declaredName (declaration : String) : String :=
  let text := declaration.toList
  String.ofList (nameOf (((splitOnce ['<', ':'] text).map Prod.fst).getD text))

end Blueprint.TypeParameter
