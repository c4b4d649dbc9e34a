import Blueprint.Path
import Blueprint.Text.Position

/-!
# File trees

A tree of files and directories, and what the operations of a file system do to it.  A place is
the list of names that lead to it from the top, which is also the working directory; the directory
above the top is the top.

An operation walks along a path: everything on the way has to be a directory that is there.  Errors
read as the operating system words them.
-/

namespace Blueprint

/-- Why a file operation fails. -/
inductive OsFault where
  | notFound
  | busy
  | exists
  | notDirectory
  | isDirectory
  | nameTooLong
  /-- The path holds a NUL character. -/
  | nulInPath
  /-- The file is not UTF-8. -/
  | notUtf8
  /-- Any other failure, as it is reported. -/
  | other (text : String)
deriving DecidableEq, Repr, Inhabited

/-- The fault in words. -/
def OsFault.message : OsFault → String
  | .notFound => "No such file or directory (os error 2)"
  | .busy => "Device or resource busy (os error 16)"
  | .exists => "File exists (os error 17)"
  | .notDirectory => "Not a directory (os error 20)"
  | .isDirectory => "Is a directory (os error 21)"
  | .nameTooLong => "File name too long (os error 36)"
  | .nulInPath => "file name contained an unexpected NUL byte"
  | .notUtf8 => "stream did not contain valid UTF-8"
  | .other text => text

/-- The names that lead to a place of a tree from its top. -/
abbrev FileTree.Place := List String

/-- What stands at a place. -/
inductive Node where
  | file (data : ByteArray)
  | directory
deriving Inhabited

/-- Whether a directory stands there. -/
def Node.isDirectory : Node → Bool
  | .directory => true
  | .file _ => false

/-- A tree of files and directories. -/
structure FileTree where
  nodes : List (FileTree.Place × Node) := []
deriving Inhabited

namespace FileTree

/-! ## Places -/

/-- What stands at a place; the top is a directory. -/
def get? (t : FileTree) (place : Place) : Option Node :=
  if place.isEmpty then some .directory
  else (t.nodes.find? (·.1 == place)).map Prod.snd

/-- Whether a directory stands at a place. -/
def hasDirectory (t : FileTree) (place : Place) : Bool :=
  (t.get? place).any Node.isDirectory

/-- The tree with nothing at a place. -/
def erase (t : FileTree) (place : Place) : FileTree :=
  ⟨t.nodes.filter fun entry => !(entry.1 == place)⟩

/-- The tree with something else at a place. -/
def put (t : FileTree) (place : Place) (node : Node) : FileTree :=
  ⟨(t.erase place).nodes ++ [(place, node)]⟩

@[simp] theorem get?_nil (t : FileTree) : t.get? [] = some .directory := rfl

theorem get?_erase (t : FileTree) {place : Place} (h : place ≠ []) (x : Place) :
    (t.erase place).get? x = if x = place then none else t.get? x := by
  unfold get? erase
  by_cases hx : x = place
  · subst hx
    simp [h]
  · rw [if_neg hx, List.find?_filter]
    have hsame : (fun entry : Place × Node =>
        decide ((!(entry.1 == place)) = true ∧ (entry.1 == x) = true)) =
          fun entry => entry.1 == x := by
      funext entry
      by_cases he : entry.1 = x
      · simp [he, hx]
      · simp [he]
    simp only [hsame]

theorem get?_put (t : FileTree) {place : Place} (h : place ≠ []) (node : Node) (x : Place) :
    (t.put place node).get? x = if x = place then some node else t.get? x := by
  have herase := t.get?_erase h x
  unfold get? at herase ⊢
  by_cases hempty : x.isEmpty = true
  · obtain rfl := List.isEmpty_iff.1 hempty
    simp [h.symm]
  · simp only [if_neg hempty, put, List.find?_append] at herase ⊢
    by_cases hx : x = place
    · subst hx
      simp only [if_true, Option.map_eq_none_iff] at herase
      simp [herase]
    · have hlast : [(place, node)].find? (·.1 == x) = none := by simp [Ne.symm hx]
      rw [if_neg hx] at herase ⊢
      rw [hlast, Option.or_none, herase]

/-- The longest name, in bytes. -/
def maxNameLength : Nat := 255

/-- The longest path, in bytes. -/
def maxPathLength : Nat := 4095

/-- The place that pieces of a path lead to from a place.  Every place that is left again has to be
a directory; the last one need not be there. -/
def walk (t : FileTree) : Place → List String → Except OsFault Place
  | here, [] => .ok here
  | here, piece :: rest =>
    match t.get? here with
    | none => .error .notFound
    | some (.file _) => .error .notDirectory
    | some .directory =>
      match Path.component? false piece with
      | none | some .root | some .current => t.walk here rest
      | some .parent => t.walk here.dropLast rest
      | some (.normal name) =>
        if maxNameLength < Text.byteLength name.toList then .error .nameTooLong
        else t.walk (here ++ [name]) rest

/-- Whether a text can be handed to the operating system as a path. -/
def checkPath (p : Path) : Except OsFault Unit :=
  if p.text.toList.contains '\x00' then .error .nulInPath
  else if p.text = "" then .error .notFound
  else if maxPathLength < Text.byteLength p.text.toList then .error .nameTooLong
  else .ok ()

/-- The place that a path leads to. -/
def locate (t : FileTree) (p : Path) : Except OsFault Place := do
  checkPath p
  t.walk [] p.pieces

/-- How a path ends. -/
inductive PathEnd where
  /-- A name in a directory, and whether slashes follow it. -/
  | name (directory : Place) (name : String) (slashed : Bool)
  /-- A directory that is no name: the top, or one reached by dots. -/
  | dots
deriving Repr, Inhabited

/-- The end of a path; the directory it lies in has to be there. -/
def locateEnd (t : FileTree) (p : Path) : Except OsFault PathEnd := do
  checkPath p
  let unslashed := (p.pieces.reverse.dropWhile (· = "")).reverse
  match unslashed.getLast? with
  | none => return .dots
  | some piece =>
    let directory ← t.walk [] unslashed.dropLast
    let there ← t.walk directory [piece]
    if piece = "." || piece = ".." then return .dots
    else return .name there.dropLast piece (unslashed.length < p.pieces.length)

/-! ## Operations -/

/-- The content of a file. -/
def read (t : FileTree) (p : Path) : Except OsFault ByteArray := do
  match t.get? (← t.locate p) with
  | none => .error .notFound
  | some .directory => .error .isDirectory
  | some (.file data) => .ok data

/-- Whether a path leads to a directory. -/
def isDirectory (t : FileTree) (p : Path) : Bool :=
  match t.locate p with
  | .ok there => t.hasDirectory there
  | .error _ => false

/-- The tree with a content in a file, which need not be there yet. -/
def write (t : FileTree) (p : Path) (data : ByteArray) : Except OsFault FileTree := do
  match ← t.locateEnd p with
  | .dots => .error .isDirectory
  | .name directory name slashed =>
    if slashed || t.hasDirectory (directory ++ [name]) then .error .isDirectory
    else .ok (t.put (directory ++ [name]) (.file data))

/-- The tree with a new directory. -/
def createDir (t : FileTree) (p : Path) : Except OsFault FileTree := do
  match ← t.locateEnd p with
  | .dots => .error .exists
  | .name directory name _ =>
    if (t.get? (directory ++ [name])).isSome then .error .exists
    else .ok (t.put (directory ++ [name]) .directory)

/-- Creates the lowest of some nested directories that can be, the lowest given first: the tree with
it, and those that remain to be created below it. -/
def createHighest (t : FileTree) : List Path → List Path → Except OsFault (FileTree × List Path)
  | missing, [] => .ok (t, missing)
  | missing, p :: above =>
    if p.text = "" || p.parent?.isNone then .ok (t, missing)
    else
      match t.createDir p with
      | .ok t => .ok (t, missing)
      | .error .notFound => t.createHighest (p :: missing) above
      | .error fault =>
        if fault = .exists && t.isDirectory p then .ok (t, missing) else .error fault

/-- Creates directories one after the other; those that are there are fine. -/
def createEach (t : FileTree) : List Path → FileTree × Except OsFault Unit
  | [] => (t, .ok ())
  | p :: rest =>
    match t.createDir p with
    | .ok t => t.createEach rest
    | .error fault =>
      if fault = .exists && t.isDirectory p then t.createEach rest else (t, .error fault)

/-- The tree with a directory and all directories above it. -/
def createDirs (t : FileTree) (p : Path) : FileTree × Except OsFault Unit :=
  match t.createHighest [] p.ancestors with
  | .error fault => (t, .error fault)
  | .ok (t, missing) => t.createEach missing

/-- The tree with a file moved to another path, over the file that may be there. -/
def rename (t : FileTree) (source target : Path) : Except OsFault FileTree := do
  let old ← t.locateEnd source
  let new ← t.locateEnd target
  match old, new with
  | .name oldDirectory oldName oldSlashed, .name newDirectory newName newSlashed =>
    match t.get? (oldDirectory ++ [oldName]) with
    | none => .error .notFound
    | some .directory => .error .exists
    | some (.file data) =>
      if oldSlashed || newSlashed then .error .notDirectory
      else if t.hasDirectory (newDirectory ++ [newName]) then .error .isDirectory
      else
        .ok ((t.erase (oldDirectory ++ [oldName])).put (newDirectory ++ [newName]) (.file data))
  | _, _ => .error .busy

/-- The tree without a file. -/
def remove (t : FileTree) (p : Path) : Except OsFault FileTree := do
  match ← t.locateEnd p with
  | .dots => .error .isDirectory
  | .name directory name slashed =>
    match t.get? (directory ++ [name]) with
    | none => .error .notFound
    | some .directory => .error .isDirectory
    | some (.file _) =>
      if slashed then .error .notDirectory else .ok (t.erase (directory ++ [name]))

/-- The path of every file at or below a path, in no particular order. -/
def filesUnder (t : FileTree) (root : Path) : Except OsFault (List Path) := do
  let top ← t.locate root
  match t.get? top with
  | none => .error .notFound
  | some (.file _) => .ok [root]
  | some .directory =>
    return t.nodes.filterMap fun (there, node) =>
      match node with
      | .file _ =>
        if top.isPrefixOf there then
          some ((there.drop top.length).foldl (fun p name => p.join ⟨false, [name]⟩) root)
        else none
      | .directory => none

end FileTree

end Blueprint
