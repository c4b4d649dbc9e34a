import Blueprint.FileTree.Script
import Blueprint.Migration.Outcome
import Blueprint.Settings.Basic

/-!
# Planning a batch

The documents below a source directory, in the order of their paths, each with the path below the
destination directory that its code goes to.
-/

namespace Blueprint.Batch

/-- The failure to look through a directory. -/
def listingFailure (root : Path) (fault : OsFault) : Failure :=
  .storage root.text ("IO error for operation on " ++ root.text ++ ": " ++ fault.message)

/-- The files among some paths that have an extension, in the order of paths. -/
def selectSources (extension : String) (files : List Path) : List Path :=
  (files.filter fun file => file.extension? = some extension).mergeSort Path.le

/-- The files at or below a path that have an extension, in the order of paths. -/
def discoverSources (root : Path) (extension : String) : Script (Except Failure (List Path)) := do
  match ← Script.perform (.filesUnder root) with
  | .error fault => return .error (listingFailure root fault)
  | .ok files => return .ok (selectSources extension files)

/-- A path as seen from the source directory, or the path itself if it lies elsewhere. -/
def relativeSource (settings : BatchSettings) (source : Path) : Path :=
  (source.relativeTo? settings.sourceDir).getD source

/-- Where the code of a document goes: the same path below the destination directory, with the
target extension. -/
def destinationFor (settings : BatchSettings) (source : Path) : Path :=
  (settings.destDir.join (relativeSource settings source)).withExtension settings.targetExtension

/-- `destinationFor`; none if the target extension holds a slash. -/
def destinationFor? (settings : BatchSettings) (source : Path) : Option Path :=
  (settings.destDir.join (relativeSource settings source)).withExtension? settings.targetExtension

/-- The dotted name of the module of a document. -/
def moduleName (settings : BatchSettings) (source : Path) : String :=
  String.intercalate "."
    (((relativeSource settings source).withExtension "").components.map Component.text)

/-- The job of a document. -/
def jobFor (settings : BatchSettings) (source : Path) : Job :=
  { source := source.text, destination := (destinationFor settings source).text }

/-- The jobs of a batch. -/
def jobs (settings : BatchSettings) : Script (Except Failure (List Job)) := do
  match ← discoverSources settings.sourceDir settings.sourceExtension with
  | .error failure => return .error failure
  | .ok sources => return .ok (sources.map (jobFor settings))

/-- Refuses settings whose values are not allowed. -/
def checkSettings (settings : BatchSettings) : Except Failure Unit := do
  Check.path "batch.source_dir" settings.sourceDir.text
  Check.path "batch.dest_dir" settings.destDir.text
  Check.extension "batch.source_extension" settings.sourceExtension
  Check.extension "batch.target_extension" settings.targetExtension
  Check.atLeast "batch.max_concurrency" settings.maxConcurrency 1

/-- Refuses settings whose values are not allowed, or whose source directory is not there. -/
def validate (settings : BatchSettings) : Script (Except Failure Unit) := do
  match checkSettings settings with
  | .error failure => return .error failure
  | .ok () =>
    if ← Script.perform (.isDirectory settings.sourceDir) then return .ok ()
    else
      return Check.refuse "batch.source_dir" settings.sourceDir.text
        "Source directory does not exist"

end Blueprint.Batch
