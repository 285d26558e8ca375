import ActivityForge.Text.Literal
import ActivityForge.Name
import ActivityForge.RetryPolicy
import ActivityForge.Source.Comment
import ActivityForge.Source.TypeText
import ActivityForge.Number.Shortest
import ActivityForge.Json.Value
import ActivityForge.Dict
import ActivityForge.Reading.Content
import ActivityForge.Reading.Shape
import ActivityForge.Json.Reader
import ActivityForge.Document.Printer
import ActivityForge.Document.Reader
import ActivityForge.Document.Reference
import ActivityForge.DataType.OfSchema
import ActivityForge.Blueprint.OfDocument
import ActivityForge.Path
import ActivityForge.Settings
import ActivityForge.Source.Artifact
import ActivityForge.Yaml.Reader
import ActivityForge.Main
import ActivityForge.Proofs.Traversal
import ActivityForge.Proofs.Reference.Target
import ActivityForge.Proofs.Reference.Chain
import ActivityForge.Proofs.Reference.Nested
import ActivityForge.Proofs.Blueprint.Resolution
import ActivityForge.Proofs.Activity.Renaming
import ActivityForge.Proofs.Blueprint.Operations
import ActivityForge.Proofs.Blueprint.Checks
import ActivityForge.Proofs.Blueprint.Acceptance
import ActivityForge.Proofs.Blueprint.Enumeration
import ActivityForge.Proofs.DataType.Mentions
import ActivityForge.Proofs.Blueprint.ModelReferences
import ActivityForge.Proofs.Source.Layout
import ActivityForge.Proofs.Source.Outline
import ActivityForge.Proofs.Source.Files
import ActivityForge.Proofs.Source.Agreement
import ActivityForge.Proofs.Number.Digits
import ActivityForge.Proofs.Text.Words
import ActivityForge.Proofs.Text.Ascii
import ActivityForge.Proofs.Name.Sanitized
import ActivityForge.Proofs.Activity.Settling
import ActivityForge.Proofs.Text.Literal
import ActivityForge.Proofs.Name.Forms
import ActivityForge.Proofs.Source.Options
import ActivityForge.Proofs.Source.Uniqueness
import ActivityForge.Proofs.Reading.Walk
import ActivityForge.Proofs.Json.Tree
import ActivityForge.Proofs.Json.Kept
import ActivityForge.Proofs.Json.Record
import ActivityForge.Proofs.Document.Positions
import ActivityForge.Proofs.Json.Whole
import ActivityForge.Proofs.Document.Edits
import ActivityForge.Proofs.Reading.Fields
import ActivityForge.Proofs.Document.Nested
import ActivityForge.Proofs.Document.Kept
import ActivityForge.Proofs.Document.Stable
import ActivityForge.Proofs.Document.StableRecord
import ActivityForge.Proofs.Document.Examples
import ActivityForge.Proofs.Document.Reading
import ActivityForge.Proofs.Document.Ignored
import ActivityForge.Proofs.Json.Compact
import ActivityForge.Proofs.Document.RoundTrip
import ActivityForge.Proofs.Document.Printed
import ActivityForge.Proofs.Document.Written
import ActivityForge.Proofs.Text.Line
import ActivityForge.Proofs.Source.Comments
import ActivityForge.Proofs.Source.Uncommented
import ActivityForge.Proofs.Source.Descriptions
import ActivityForge.Proofs.Source.Titles
import ActivityForge.Proofs.Text.CaseMap
import ActivityForge.Proofs.Name.Characters
import ActivityForge.Proofs.Source.Emitted
import ActivityForge.Proofs.Source.Paths
import ActivityForge.Proofs.DataType.Layers
import ActivityForge.Proofs.Source.Containment
import ActivityForge.Proofs.Blueprint.Outcome
import ActivityForge.Proofs.Blueprint.Leniency
import ActivityForge.Proofs.Blueprint.Tolerance
import ActivityForge.Proofs.Blueprint.Extension
import ActivityForge.Proofs.Workspace.Frame
import ActivityForge.Proofs.CommandLine.Untouched
import ActivityForge.Proofs.Path
import ActivityForge.Proofs.Workspace.Places
import ActivityForge.Proofs.Workspace.Directories
import ActivityForge.Proofs.Source.Inside
import ActivityForge.Proofs.Generation.Effect
import ActivityForge.Proofs.Generation.Repetition
import ActivityForge.Proofs.CommandLine.Accord
import ActivityForge.Proofs.Source.Members
import ActivityForge.Proofs.Source.Readback
import ActivityForge.Proofs.Source.Texts
import ActivityForge.Proofs.Source.ModuleItems
import ActivityForge.Proofs.Source.ModuleTree
import ActivityForge.Proofs.DataType.Optional
import ActivityForge.Proofs.Source.ModelFiles
import ActivityForge.Proofs.Source.Omission
import ActivityForge.Proofs.Blueprint.Parameters
import ActivityForge.Proofs.Source.ArgumentNames
import ActivityForge.Proofs.Blueprint.Merging
import ActivityForge.Proofs.Name.Pascal
import ActivityForge.Proofs.Blueprint.ModelNames
import ActivityForge.Proofs.Source.RequestNames
import ActivityForge.Proofs.Source.MemberNames
import ActivityForge.Proofs.Reference.Endless
import ActivityForge.Proofs.Reference.Inspection
import ActivityForge.Proofs.DataType.Nullability
import ActivityForge.Proofs.Blueprint.Nullability
import ActivityForge.Proofs.Text.Quotes
import ActivityForge.Proofs.Source.WireNames
import ActivityForge.Proofs.Name.Members
import ActivityForge.Proofs.Name.Legal
import ActivityForge.Proofs.Source.LegalNames
import ActivityForge.Proofs.Name.SnakeCase
import ActivityForge.Proofs.Name.TypeNames
import ActivityForge.Proofs.Blueprint.KeptNames
import ActivityForge.Proofs.Source.StructNames
