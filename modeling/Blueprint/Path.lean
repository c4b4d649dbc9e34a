import Blueprint.Text.Split

/-!
# Paths

A path is the list of the pieces between its slashes, so it keeps the spelling it was given; empty
pieces and single dots carry no meaning, save a dot at the start of a relative path.  What a path
means is its list of components.

The file name is the last component if that is a name.  Its extension is what follows its last dot,
unless nothing precedes that dot.
-/

namespace Blueprint

/-- A path as it is spelled. -/
structure Path where
  /-- Whether it starts with a slash. -/
  absolute : Bool
  /-- The pieces between the slashes; the slash at the start of an absolute path divides nothing. -/
  pieces : List String
deriving DecidableEq, Repr, Inhabited

/-- A meaningful step of a path. -/
inductive Component where
  | root
  | current
  | parent
  | normal (name : String)
deriving DecidableEq, Repr, Inhabited

namespace Component

/-- How messages spell a component. -/
def text : Component → String
  | .root => "/"
  | .current => "."
  | .parent => ".."
  | .normal name => name

/-- The place of the kind of a component in the order of components. -/
def rank : Component → Nat
  | .root => 0
  | .current => 1
  | .parent => 2
  | .normal _ => 3

/-- The order of components: by kind, names among themselves by their text. -/
def before : Component → Component → Bool
  | .normal a, .normal b => a < b
  | a, b => a.rank < b.rank

end Component

namespace Path

/-- The path that a text spells. -/
def ofText (text : String) : Path :=
  match text.toList with
  | '/' :: rest => ⟨true, (Text.splitOn '/' rest).map String.ofList⟩
  | chars => ⟨false, (Text.splitOn '/' chars).map String.ofList⟩

/-- The text of a path. -/
def text (p : Path) : String :=
  (if p.absolute then "/" else "") ++ String.intercalate "/" p.pieces

/-! ## Components -/

/-- The component that a piece stands for; `leading` for the first piece of a relative path. -/
def component? (leading : Bool) (piece : String) : Option Component :=
  if piece = "" then none
  else if piece = "." then if leading then some .current else none
  else if piece = ".." then some .parent
  else some (.normal piece)

/-- The components of pieces, the first of them as `leading` says. -/
def componentsOf (leading : Bool) : List String → List Component
  | [] => []
  | piece :: rest => (component? leading piece).toList ++ rest.filterMap (component? false)

/-- What a path means. -/
def components (p : Path) : List Component :=
  if p.absolute then .root :: componentsOf false p.pieces else componentsOf true p.pieces

/-- Whether the first list of components does not come after the second in the order of paths. -/
def componentsLe : List Component → List Component → Bool
  | [], _ => true
  | _ :: _, [] => false
  | a :: as, b :: bs => a.before b || (!b.before a && componentsLe as bs)

/-- Whether a path does not come after another. -/
def le (p q : Path) : Bool :=
  componentsLe p.components q.components

/-! ## Ends of a path -/

/-- The pieces without those at the end that mean nothing. -/
def trimPieces (leading : Bool) : List String → List String
  | [] => []
  | piece :: rest =>
    match trimPieces false rest with
    | [] => if (component? leading piece).isSome then [piece] else []
    | kept => piece :: kept

/-- The path without the pieces at its end that mean nothing. -/
def trimmed (p : Path) : Path :=
  { p with pieces := trimPieces (!p.absolute) p.pieces }

/-- The path without its last component. -/
def parent? (p : Path) : Option Path :=
  let t := p.trimmed
  if t.pieces.isEmpty then none else some { t with pieces := t.pieces.dropLast }.trimmed

/-- A path and the paths above it, at most `fuel` of them. -/
def ancestorsFrom (p : Path) : Nat → List Path
  | 0 => []
  | fuel + 1 =>
    p :: match p.parent? with
      | none => []
      | some q => ancestorsFrom q fuel

/-- A path and all paths above it, the lowest first. -/
def ancestors (p : Path) : List Path :=
  p.ancestorsFrom (p.pieces.length + 1)

/-- The name at the end of a path. -/
def fileName? (p : Path) : Option String :=
  match p.components.getLast? with
  | some (.normal name) => some name
  | _ => none

/-! ## Combining paths -/

/-- The path that leads on from the end of another; an absolute path leads away from it.  The empty
path adds a slash at the end, unless there is one or nothing stands before it. -/
def join (p q : Path) : Path :=
  let added := if q.pieces.isEmpty then [""] else q.pieces
  if q.absolute then q
  else if p.pieces.getLast? = some "" then { p with pieces := p.pieces.dropLast ++ added }
  else { p with pieces := p.pieces ++ added }

/-- The pieces after the first `count` components of some pieces. -/
def dropComponents : Nat → Bool → List String → List String
  | 0, _, pieces => pieces
  | _ + 1, _, [] => []
  | count + 1, leading, piece :: rest =>
    if (component? leading piece).isSome then dropComponents count false rest
    else dropComponents (count + 1) false rest

/-- The pieces without those at the start that mean nothing. -/
def dropMeaningless (pieces : List String) : List String :=
  pieces.dropWhile fun piece => (component? false piece).isNone

/-- What a path adds to a path above it. -/
def relativeTo? (p base : Path) : Option Path :=
  let count := base.components.length
  if !base.components.isPrefixOf p.components then none
  else if count = 0 then some p.trimmed
  else
    let inner := if p.absolute then count - 1 else count
    some (trimmed ⟨false, dropMeaningless (dropComponents inner (!p.absolute) p.pieces)⟩)

/-- The path with another file name, or with one added if it has none. -/
def withFileName (p : Path) (name : String) : Path :=
  let base := if p.fileName?.isSome then p.parent?.getD p else p
  base.join ⟨false, [name]⟩

/-! ## Extensions -/

/-- A file name cut at its last dot: the stem, and the extension if there is one. -/
def splitName (name : String) : String × Option String :=
  match Text.beforeLast? '.' name.toList with
  | none => (name, none)
  | some stem =>
    if stem.isEmpty then (name, none)
    else (String.ofList stem, some (String.ofList (Text.afterLast '.' name.toList)))

/-- The extension of a path. -/
def extension? (p : Path) : Option String :=
  p.fileName?.bind fun name => (splitName name).2

/-- The stem of the file name of a path. -/
def stem? (p : Path) : Option String :=
  p.fileName?.map fun name => (splitName name).1

/-- The path with another last piece. -/
def withLastPiece (p : Path) (piece : String) : Path :=
  { p with pieces := p.trimmed.pieces.dropLast ++ [piece] }

/-- The path with what follows the stem of its file name replaced by an extension, which may be
empty.  A path without a file name stays as it is. -/
def setExtension (p : Path) (extension : String) : Path :=
  match p.stem? with
  | none => p
  | some stem => p.withLastPiece (if extension = "" then stem else stem ++ "." ++ extension)

/-- The path without its extension, but with the dot before it. -/
def cutExtension (p : Path) : Path :=
  match p.fileName? with
  | none => p
  | some name =>
    match splitName name with
    | (stem, some _) => p.withLastPiece (stem ++ ".")
    | (_, none) => p

/-- The path with another extension.  The old one is cut off first; where that leaves the two dots
of a parent directory, the path has no file name any more and stays at that. -/
def withExtension (p : Path) (extension : String) : Path :=
  (if p = p.trimmed then p.cutExtension else p).setExtension extension

/-- The path with another extension; none if the extension holds a slash. -/
def withExtension? (p : Path) (extension : String) : Option Path :=
  if extension.toList.contains '/' then none else some (p.withExtension extension)

end Path

end Blueprint
