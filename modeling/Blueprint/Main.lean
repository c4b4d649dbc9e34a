import Blueprint.Batch.RunId
import Blueprint.Command.Batch
import Blueprint.Command.Single
import Std.Time.DateTime.Timestamp

/-!
# The programs

Under the name `batch_migrate` the program migrates a directory, under any other name one document.
This module reads the words and the environment, carries out the file operations, and prints.
-/

namespace Blueprint

/-- The number and the text of an error of the operating system. -/
def errorCode? : IO.Error → Option (UInt32 × String)
  | .alreadyExists _ code details | .invalidArgument _ code details
  | .permissionDenied _ code details | .resourceExhausted _ code details
  | .inappropriateType _ code details | .noSuchThing _ code details => some (code, details)
  | .noFileOrDirectory _ code details | .interrupted _ code details => some (code, details)
  | .otherError code details | .resourceBusy code details | .resourceVanished code details
  | .unsupportedOperation code details | .hardwareFault code details
  | .unsatisfiedConstraints code details | .illegalOperation code details
  | .protocolError code details | .timeExpired code details => some (code, details)
  | .unexpectedEof | .userError _ => none

/-- The fault that an error is. -/
def OsFault.ofError (error : IO.Error) : OsFault :=
  match errorCode? error with
  | none => .other error.toString
  | some (code, details) =>
    match code with
    | 2 => .notFound
    | 16 => .busy
    | 17 => .exists
    | 20 => .notDirectory
    | 21 => .isDirectory
    | 36 => .nameTooLong
    | _ => .other (details ++ " (os error " ++ toString code ++ ")")

/-- The result of an action, its error as a fault. -/
def attempt (action : IO α) : IO (Except OsFault α) := do
  match ← action.toBaseIO with
  | .ok a => return .ok a
  | .error error => return .error (.ofError error)

/-- The files at or below a path. -/
def listFiles (root : Path) : IO (List Path) := do
  let top := System.mkFilePath [root.text]
  if (← top.metadata).type == .dir then
    let entries ← top.walkDir
    let files ← entries.filterM fun entry => return (← entry.metadata).type == .file
    return files.toList.map fun file => .ofText file.toString
  else return [root]

/-- Carries out a file operation. -/
def operate : (op : FileOp) → IO op.Answer
  | .read path => attempt (IO.FS.readBinFile path.text)
  | .isDirectory path => (System.mkFilePath [path.text]).isDir
  | .filesUnder root => attempt (listFiles root)
  | .write path data => attempt (IO.FS.writeBinFile path.text data)
  | .createDirs path => attempt (IO.FS.createDirAll path.text)
  | .rename source target => attempt (IO.FS.rename source.text target.text)
  | .remove path => attempt (IO.FS.removeFile path.text)

/-- The values of the variables that a settings file mentions. -/
def environmentOf (config? : Option String) : IO Settings.Environment := do
  match config? with
  | none => return fun _ => none
  | some path =>
    match (← attempt (IO.FS.readBinFile path)).bind Settings.decodeText with
    | .error _ => return fun _ => none
    | .ok text =>
      let values ←
        (Settings.mentioned text.toList).mapM fun name => return (name, ← IO.getEnv name)
      return fun name => (values.find? (·.1 == name)).bind Prod.snd

/-- The name of the settings file on a command line. -/
def configOf (spec : Command.Spec) (words : List String) : Option String :=
  match Command.parse spec words with
  | .ok arguments => arguments.value? "config"
  | .error _ => none

/-- Prints what a program says, and gives the code it ends with. -/
def finish : Except Command.UsageFault Command.Output → IO UInt32
  | .error .help => do
    IO.println "Usage: [OPTIONS] <ARGUMENTS>"
    return 0
  | .error fault => do
    IO.eprintln ("error: " ++ fault.message)
    return 2
  | .ok output => do
    IO.print output.stdout
    IO.eprint output.stderr
    return output.exitCode.toUInt32

/-- Runs the program that migrates one document. -/
def migrateOne (words : List String) : IO UInt32 := do
  let env ← environmentOf (configOf Command.singleSpec words)
  finish (← (Command.single env words).carryOut operate)

/-- Runs the program that migrates a directory.  Its operations are carried out one at a time, so
tasks take no turns: each goes on until it is done. -/
def migrateDirectory (words : List String) : IO UInt32 := do
  let env ← environmentOf (configOf Command.batchSpec words)
  let now ← Std.Time.Timestamp.now
  let runId := Batch.runId now.toSecondsSinceUnixEpoch.val.toNat
  finish (← (Command.batch env runId {} words).carryOut operate)

end Blueprint

/-- The program. -/
def main (words : List String) : IO UInt32 := do
  let name := Blueprint.Path.fileName? (.ofText (← IO.appPath).toString)
  if name = some "batch_migrate" then Blueprint.migrateDirectory words
  else Blueprint.migrateOne words
