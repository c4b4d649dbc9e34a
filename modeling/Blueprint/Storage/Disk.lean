import Blueprint.FileTree.Script
import Blueprint.Storage.Basic

/-!
# Storage on disk

Files below a base directory; an absolute path leaves the base aside.  A file is written under
another name first and then renamed into place, so that nobody ever sees a part of it.
-/

namespace Blueprint

/-- The file next to a target that a write goes to before it is renamed into place. -/
def stagingPath (target : Path) : Path :=
  target.withFileName (target.fileName?.getD "output" ++ ".partial")

/-- The failure of a file operation on a path. -/
def storageFailure (path : Path) (fault : OsFault) : Failure :=
  .storage path.text fault.message

/-- The result of a file operation on a path, its fault as a failure. -/
def reportAt (path : Path) : Except OsFault Unit → Except Failure Unit
  | .ok () => .ok ()
  | .error fault => .error (storageFailure path fault)

/-- Creates the directory that a file goes to. -/
def createParent (target : Path) : Script (Except Failure Unit) :=
  match target.parent? with
  | none => return .ok ()
  | some parent => return reportAt parent (← Script.perform (.createDirs parent))

/-- Renames a staged file into place; if that fails the staged file is removed. -/
def commitStaged (staged target : Path) : Script (Except Failure Unit) := do
  match ← Script.perform (.rename staged target) with
  | .ok () => return .ok ()
  | .error fault => do
    let _ ← Script.perform (.remove staged)
    return .error (storageFailure target fault)

/-- Writes a file by way of a staged one, in a directory that is created if need be. -/
def writeStaged (target : Path) (data : ByteArray) : Script (Except Failure Unit) := do
  match ← createParent target with
  | .error failure => return .error failure
  | .ok () =>
    match ← Script.perform (.write (stagingPath target) data) with
    | .error fault => return .error (storageFailure (stagingPath target) fault)
    | .ok () => commitStaged (stagingPath target) target

/-- Reads a file. -/
def readFile (path : Path) : Script (Except Failure ByteArray) := do
  match ← Script.perform (.read path) with
  | .ok data => return .ok data
  | .error fault => return .error (.io fault.message)

/-- The storage below a base directory. -/
def diskStorage (base : Path) : Storage Script where
  read path := readFile (base.join (.ofText path))
  write path data := writeStaged (base.join (.ofText path)) data

/-- The working directory as a base. -/
def workingDirectory : Path := .ofText ""

end Blueprint
