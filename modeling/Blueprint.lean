import Blueprint.Batch.Plan
import Blueprint.Batch.Report
import Blueprint.Batch.Run
import Blueprint.Batch.RunId
import Blueprint.Command.Arguments
import Blueprint.Command.Batch
import Blueprint.Command.Output
import Blueprint.Command.Single
import Blueprint.Decimal.Binary64
import Blueprint.Decimal.Shortest
import Blueprint.Declaration
import Blueprint.Document.Basic
import Blueprint.Document.Entry
import Blueprint.Document.Place
import Blueprint.DottedName
import Blueprint.Failure
import Blueprint.FileTree.Basic
import Blueprint.FileTree.Script
import Blueprint.Finding
import Blueprint.Json
import Blueprint.Kotlin.Comment
import Blueprint.Kotlin.DeclarationText
import Blueprint.Kotlin.File
import Blueprint.Kotlin.Identifier
import Blueprint.Kotlin.Layout
import Blueprint.Kotlin.NamePlan
import Blueprint.Kotlin.Override
import Blueprint.Kotlin.Piece
import Blueprint.Kotlin.Renderable
import Blueprint.Kotlin.Signature
import Blueprint.Kotlin.TypeText
import Blueprint.Main
import Blueprint.Migration.Document
import Blueprint.Migration.Outcome
import Blueprint.Migration.Pipeline
import Blueprint.NameSet
import Blueprint.Path
import Blueprint.Pattern.Basic
import Blueprint.Pattern.Reader
import Blueprint.Project
import Blueprint.Proofs.Batch.Clash
import Blueprint.Proofs.Batch.Destination
import Blueprint.Proofs.Batch.Parallel
import Blueprint.Proofs.Batch.Report
import Blueprint.Proofs.Batch.Schedule
import Blueprint.Proofs.Batch.Sources
import Blueprint.Proofs.CommonPackage
import Blueprint.Proofs.Document.OffsetScan
import Blueprint.Proofs.Document.Place
import Blueprint.Proofs.Document.Scope
import Blueprint.Proofs.DottedName
import Blueprint.Proofs.FileTree.Directories
import Blueprint.Proofs.FileTree.Growth
import Blueprint.Proofs.FileTree.Interference
import Blueprint.Proofs.FileTree.Walk
import Blueprint.Proofs.Kotlin.Blocks
import Blueprint.Proofs.Kotlin.Capture
import Blueprint.Proofs.Kotlin.Comment
import Blueprint.Proofs.Kotlin.File
import Blueprint.Proofs.Kotlin.Implementation
import Blueprint.Proofs.Kotlin.Layout
import Blueprint.Proofs.Kotlin.NamePlan
import Blueprint.Proofs.Kotlin.Overload
import Blueprint.Proofs.Kotlin.Override
import Blueprint.Proofs.Kotlin.Shape
import Blueprint.Proofs.Kotlin.Spelling
import Blueprint.Proofs.Kotlin.Switches
import Blueprint.Proofs.Kotlin.TypeText
import Blueprint.Proofs.Kotlin.Writer
import Blueprint.Proofs.Migration.Calls
import Blueprint.Proofs.Migration.Document
import Blueprint.Proofs.Path
import Blueprint.Proofs.Path.Combine
import Blueprint.Proofs.Project
import Blueprint.Proofs.Renderable
import Blueprint.Proofs.Rule.Check
import Blueprint.Proofs.Rule.Redeclaration
import Blueprint.Proofs.Rule.Signature
import Blueprint.Proofs.Rule.Verdict
import Blueprint.Proofs.Storage.Disk
import Blueprint.Proofs.Storage.Staged
import Blueprint.Proofs.Text.Position
import Blueprint.Proofs.Toml.Quoting
import Blueprint.Proofs.TypeExpr.BoundColumn
import Blueprint.Proofs.TypeExpr.Composition
import Blueprint.Proofs.TypeExpr.FaultColumn
import Blueprint.Proofs.TypeExpr.Grammar
import Blueprint.Proofs.TypeExpr.Lossless
import Blueprint.Proofs.TypeExpr.Outline
import Blueprint.Proofs.TypeExpr.Parameter
import Blueprint.Proofs.TypeExpr.RoundTrip
import Blueprint.Proofs.TypeExpr.Scan
import Blueprint.Proofs.TypeExpr.Substitution
import Blueprint.Repeat
import Blueprint.Rule
import Blueprint.Settings.Basic
import Blueprint.Settings.Check
import Blueprint.Settings.File
import Blueprint.Settings.Substitution
import Blueprint.SourceUnit
import Blueprint.Storage.Basic
import Blueprint.Storage.Disk
import Blueprint.Storage.Memory
import Blueprint.Text.Alphabetic
import Blueprint.Text.Blank
import Blueprint.Text.CodeRange
import Blueprint.Text.Hex
import Blueprint.Text.Lines
import Blueprint.Text.Mark
import Blueprint.Text.Numeric
import Blueprint.Text.Position
import Blueprint.Text.Printable
import Blueprint.Text.Quoted
import Blueprint.Text.Split
import Blueprint.Text.Utf8
import Blueprint.Text.Word
import Blueprint.Toml.Document
import Blueprint.Toml.Moment
import Blueprint.Toml.Number
import Blueprint.Toml.Quoting
import Blueprint.Toml.Reader
import Blueprint.Toml.Shape
import Blueprint.Toml.Value
import Blueprint.TypeExpr.Basic
import Blueprint.TypeExpr.Display
import Blueprint.TypeExpr.Parameter
import Blueprint.TypeExpr.Reader
import Blueprint.TypeExpr.Substitution
import Blueprint.TypeExpr.Token
import Blueprint.TypeExpr.Wrapper
