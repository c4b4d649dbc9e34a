import Blueprint.Kotlin.Layout
import Blueprint.Path
import Blueprint.Pattern.Reader
import Blueprint.Settings.Check
import Blueprint.Settings.Substitution
import Blueprint.Toml.Document
import Blueprint.Toml.Shape

/-!
# Settings

A settings file is a TOML table with the sections `pipeline`, `render` and `batch`.  Everything in
it has a default, and keys that are not known are passed over.
-/

namespace Blueprint

/-- What the `pipeline` section sets. -/
structure PipelineSettings where
  skipValidation : Bool := false
  /-- Whether warnings stop a migration like errors. -/
  failOnWarnings : Bool := false
  /-- The pattern of identifiers, if it is not the usual one. -/
  identifierPattern? : Option String := none
deriving DecidableEq, Repr, Inhabited

/-- What the `batch` section sets. -/
structure BatchSection where
  sourceDir? : Option String := none
  destDir? : Option String := none
  sourceExtension : String := "toml"
  targetExtension : String := "kt"
  parallel : Bool := true
  maxConcurrency : Nat := 8
deriving DecidableEq, Repr, Inhabited

/-- The settings of a migration. -/
structure Settings where
  pipeline : PipelineSettings := {}
  layout : Kotlin.Layout := {}
  batch : BatchSection := {}
deriving DecidableEq, Repr, Inhabited

namespace Settings

open Toml (Value ShapeFault RecordShape defaulted)

/-! ## Sections -/

/-- The fields of the `pipeline` section. -/
def pipelineShape : RecordShape where
  label := "PipelineSection"
  strict := false
  fields :=
    [defaulted "skip_validation" Value.asBoolean, defaulted "fail_on_warnings" Value.asBoolean,
      defaulted "identifier_pattern" Value.asString]

/-- Reads the `pipeline` section. -/
def readPipeline (v : Value) : Except ShapeFault PipelineSettings := do
  let fields ← pipelineShape.read v
  return {
    skipValidation := ← fields.withDefault "skip_validation" Value.asBoolean false
    failOnWarnings := ← fields.withDefault "fail_on_warnings" Value.asBoolean false
    identifierPattern? := ← fields.optional "identifier_pattern" Value.asString }

/-- The fields of the `render` section. -/
def layoutShape : RecordShape where
  label := "RenderConfig"
  strict := false
  fields :=
    [defaulted "indent_width" Value.asCount, defaulted "trailing_commas" Value.asBoolean,
      defaulted "inline_value_classes" Value.asBoolean, defaulted "file_header" Value.asBoolean]

/-- Reads the `render` section. -/
def readLayout (v : Value) : Except ShapeFault Kotlin.Layout := do
  let fields ← layoutShape.read v
  return {
    indentWidth := ← fields.withDefault "indent_width" Value.asCount 4
    trailingCommas := ← fields.withDefault "trailing_commas" Value.asBoolean true
    inlineValueClasses := ← fields.withDefault "inline_value_classes" Value.asBoolean true
    fileHeader := ← fields.withDefault "file_header" Value.asBoolean true }

/-- The fields of the `batch` section. -/
def batchShape : RecordShape where
  label := "BatchSection"
  strict := false
  fields :=
    [defaulted "source_dir" Value.asString, defaulted "dest_dir" Value.asString,
      defaulted "source_extension" Value.asString, defaulted "target_extension" Value.asString,
      defaulted "parallel" Value.asBoolean, defaulted "max_concurrency" Value.asCount]

/-- Reads the `batch` section. -/
def readBatch (v : Value) : Except ShapeFault BatchSection := do
  let fields ← batchShape.read v
  return {
    sourceDir? := ← fields.optional "source_dir" Value.asString
    destDir? := ← fields.optional "dest_dir" Value.asString
    sourceExtension := ← fields.withDefault "source_extension" Value.asString "toml"
    targetExtension := ← fields.withDefault "target_extension" Value.asString "kt"
    parallel := ← fields.withDefault "parallel" Value.asBoolean true
    maxConcurrency := ← fields.withDefault "max_concurrency" Value.asCount 8 }

/-- The sections of settings. -/
def settingsShape : RecordShape where
  label := "MigrationConfig"
  strict := false
  fields :=
    [defaulted "pipeline" readPipeline, defaulted "render" readLayout,
      defaulted "batch" readBatch]

/-- Reads settings. -/
def ofValue (v : Value) : Except ShapeFault Settings := do
  let fields ← settingsShape.read v
  return {
    pipeline := ← fields.withDefault "pipeline" readPipeline {}
    layout := ← fields.withDefault "render" readLayout {}
    batch := ← fields.withDefault "batch" readBatch {} }

/-! ## Settings files -/

/-- A complaint about the bytes of a span, with the line it starts on and marks under them. -/
def complaint (text : List Char) (span : Toml.Span) (message : String) : String :=
  let place := Text.Position.ofOffset text span.start
  let number := toString place.line
  let gutter := String.ofList (List.replicate (number.length + 1) ' ')
  let source := ((Text.splitOn '\n' text)[place.line - 1]?).getD []
  let room := Text.byteLength source - (place.column - 1)
  let marks := max 1 (min (span.stop - span.start) room)
  "TOML parse error at line " ++ number ++ ", column " ++ toString place.column ++ "\n" ++
    gutter ++ "|\n" ++
    number ++ " | " ++ String.ofList source ++ "\n" ++
    gutter ++ "|" ++ String.ofList (List.replicate place.column ' ') ++
    String.ofList (List.replicate marks '^') ++ "\n" ++
    message ++ "\n"

/-- The failure to read settings from a text. -/
def shapeFailure (text : List Char) (span : Toml.Span) (message : String) : Failure :=
  .config ("TOML parsing error: " ++ complaint text span message)

/-- The settings that a text spells in an environment. -/
def parse (env : Environment) (content : String) : Except Failure Settings :=
  let text := substitute env content.toList
  match Toml.parse text with
  | .error fault =>
    .error (shapeFailure text ⟨fault.offset, fault.offset⟩ "invalid TOML")
  | .ok value =>
    match ofValue value with
    | .error fault => .error (shapeFailure text fault.span fault.cause.message)
    | .ok settings => .ok settings

/-! ## Checks -/

/-- The least and the greatest width of a level of indentation. -/
def indentWidths : Nat × Nat := (1, 16)

/-- Refuses a pattern that is none. -/
def checkPattern (text : String) : Except Failure Unit :=
  match Pattern.parse text with
  | .ok _ => .ok ()
  | .error fault => Check.refuse "pipeline.identifier_pattern" text (fault.message text)

/-- Refuses settings with a value that is not allowed. -/
def validate (s : Settings) : Except Failure Unit := do
  Check.between "render.indent_width" s.layout.indentWidth indentWidths.1 indentWidths.2
  Check.extension "batch.source_extension" s.batch.sourceExtension
  Check.extension "batch.target_extension" s.batch.targetExtension
  Check.atLeast "batch.max_concurrency" s.batch.maxConcurrency 1
  s.batch.sourceDir?.forM (Check.path "batch.source_dir")
  s.batch.destDir?.forM (Check.path "batch.dest_dir")
  s.pipeline.identifierPattern?.forM checkPattern

end Settings

/-- The settings of a batch. -/
structure BatchSettings where
  sourceDir : Path
  destDir : Path
  sourceExtension : String := "toml"
  targetExtension : String := "kt"
  parallel : Bool := true
  maxConcurrency : Nat := 8
deriving DecidableEq, Repr, Inhabited

/-- The settings of a batch; both directories have to be given. -/
def Settings.batchSettings (s : Settings) : Except Failure BatchSettings := do
  let sourceDir ← Check.given "batch.source_dir" s.batch.sourceDir?
  let destDir ← Check.given "batch.dest_dir" s.batch.destDir?
  return {
    sourceDir := .ofText sourceDir, destDir := .ofText destDir,
    sourceExtension := s.batch.sourceExtension, targetExtension := s.batch.targetExtension,
    parallel := s.batch.parallel, maxConcurrency := s.batch.maxConcurrency }

end Blueprint
