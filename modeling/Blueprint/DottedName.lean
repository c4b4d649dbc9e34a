import Blueprint.Text.Split

/-!
# Dotted names

A name such as `java.util.UUID` is a path: its last segment is the simple name, what stands before
it is the package.  A name without a dot is bare and has no package.
-/

namespace Blueprint.DottedName

open Blueprint.Text

/-- The last segment of a name. -/
def simple (name : String) : String :=
  String.ofList (afterLast '.' name.toList)

/-- What stands before the last segment, if the name has more than one. -/
def package? (name : String) : Option String :=
  (beforeLast? '.' name.toList).map String.ofList

/-- The segments of a name, in order. -/
def segments (name : String) : List String :=
  (splitOn '.' name.toList).map String.ofList

/-- The name with its package in front, unless the package is empty. -/
def qualify (package name : String) : String :=
  if package.isEmpty then name else package ++ "." ++ name

/-- The longest list that both lists start with. -/
def commonStart : List String → List String → List String
  | a :: as, b :: bs => if a = b then a :: commonStart as bs else []
  | _, _ => []

/-- The non-empty segments of a package. -/
def packageSegments (package : String) : List String :=
  (segments package).filter (! ·.isEmpty)

/-- The longest package that every listed package lies in; empty for an empty list. -/
def commonPackage : List String → String
  | [] => ""
  | first :: rest =>
    ".".intercalate (rest.foldl (fun acc p => commonStart acc (packageSegments p))
      (packageSegments first))

end Blueprint.DottedName
