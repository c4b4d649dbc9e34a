import Blueprint.FileTree.Script
import Blueprint.Settings.Basic
import Blueprint.Text.Utf8

/-!
# Settings files

Settings are read from a UTF-8 file.
-/

namespace Blueprint.Settings

/-- The text of some bytes. -/
def decodeText (bytes : ByteArray) : Except OsFault String :=
  match Text.Utf8.decode bytes with
  | .ok text => .ok text
  | .error _ => .error .notUtf8

/-- The settings of a file. -/
def load (env : Environment) (path : Path) : Script (Except Failure Settings) := do
  match (← Script.perform (.read path)).bind decodeText with
  | .error fault => return .error (.io fault.message)
  | .ok text => return parse env text

/-- The settings of a file, or the usual ones if none is named. -/
def loadOptional (env : Environment) : Option String → Script (Except Failure Settings)
  | none => return .ok {}
  | some path => load env (.ofText path)

end Blueprint.Settings
