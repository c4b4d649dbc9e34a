import Blueprint.DottedName

/-!
# Kotlin identifiers

A name that Kotlin reserves as a hard keyword is written between backticks.  Soft keywords and
modifiers are ordinary identifiers and need none.
-/

namespace Blueprint.Kotlin

/-- The hard keywords of Kotlin. -/
def hardKeywords : List String :=
  ["as", "break", "class", "continue", "do", "else", "false", "for", "fun", "if", "in", "interface",
   "is", "null", "object", "package", "return", "super", "this", "throw", "true", "try",
   "typealias", "typeof", "val", "var", "when", "while"]

/-- Whether a name is a hard keyword. -/
def isHardKeyword (name : String) : Bool :=
  name ∈ hardKeywords

/-- A name as Kotlin source spells it. -/
def escape (name : String) : String :=
  if isHardKeyword name then "`" ++ name ++ "`" else name

/-- A dotted path with every segment escaped. -/
def escapePath (path : String) : String :=
  ".".intercalate ((DottedName.segments path).map escape)

end Blueprint.Kotlin
