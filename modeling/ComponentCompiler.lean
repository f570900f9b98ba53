import ComponentCompiler.Arithmetic
import ComponentCompiler.Build.Basic
import ComponentCompiler.Build.BlockText
import ComponentCompiler.Build.Error
import ComponentCompiler.Build.Module
import ComponentCompiler.Build.Script
import ComponentCompiler.Build.Template
import ComponentCompiler.Cache.Basic
import ComponentCompiler.Cache.Fingerprint
import ComponentCompiler.Cache.Index
import ComponentCompiler.Cache.Modules
import ComponentCompiler.Clock
import ComponentCompiler.Collaborator.Basic
import ComponentCompiler.Collaborator.Requests
import ComponentCompiler.Collaborator.Wire
import ComponentCompiler.CommandLine.Arguments
import ComponentCompiler.CommandLine.Basic
import ComponentCompiler.CommandLine.Project
import ComponentCompiler.Component.Basic
import ComponentCompiler.Component.Display
import ComponentCompiler.Component.Wire
import ComponentCompiler.Config.Basic
import ComponentCompiler.Config.Document
import ComponentCompiler.Config.Environment
import ComponentCompiler.Config.Load
import ComponentCompiler.Decimal.Binary64
import ComponentCompiler.Decimal.Shortest
import ComponentCompiler.Diagnostic.Basic
import ComponentCompiler.Diagnostic.Policy
import ComponentCompiler.Diagnostic.Report
import ComponentCompiler.Diagnostic.Wire
import ComponentCompiler.Files
import ComponentCompiler.Journal
import ComponentCompiler.Json.Basic
import ComponentCompiler.Json.Parser
import ComponentCompiler.Json.Printer
import ComponentCompiler.Json.Record
import ComponentCompiler.Keyed
import ComponentCompiler.Loader
import ComponentCompiler.Machine.Basic
import ComponentCompiler.Machine.Disk
import ComponentCompiler.Machine.Servants
import ComponentCompiler.Main
import ComponentCompiler.Module.Format
import ComponentCompiler.Module.Joining
import ComponentCompiler.Module.Recognise
import ComponentCompiler.Path
import ComponentCompiler.Pattern.Basic
import ComponentCompiler.Pattern.Parser
import ComponentCompiler.Pattern.Property
import ComponentCompiler.Pattern.Size
import ComponentCompiler.Surroundings
import ComponentCompiler.Source.Frame
import ComponentCompiler.Source.Text
import ComponentCompiler.SourceMap.Basic
import ComponentCompiler.SourceMap.Compose
import ComponentCompiler.SourceMap.Decode
import ComponentCompiler.SourceMap.Encode
import ComponentCompiler.SourceMap.Inline
import ComponentCompiler.SourceMap.Merge
import ComponentCompiler.SourceMap.Vlq
import ComponentCompiler.Text.Age
import ComponentCompiler.Text.Base64
import ComponentCompiler.Text.Blank
import ComponentCompiler.Text.CaseFold
import ComponentCompiler.Text.CharCategory
import ComponentCompiler.Text.CharSet
import ComponentCompiler.Text.Lines
import ComponentCompiler.Text.Offset
import ComponentCompiler.Text.Property
import ComponentCompiler.Text.Scan
import ComponentCompiler.Text.Script
import ComponentCompiler.Text.Segment
import ComponentCompiler.Text.Word
import ComponentCompiler.Toml.Basic
import ComponentCompiler.Toml.Node
import ComponentCompiler.Toml.Parser
import ComponentCompiler.Toml.Printer
import ComponentCompiler.Toml.Scalar
import ComponentCompiler.Version
import ComponentCompiler.Version.Wire
import ComponentCompiler.Proofs.SourceMap.Compose
import ComponentCompiler.Proofs.SourceMap.Merge
import ComponentCompiler.Proofs.Build.Lines
import ComponentCompiler.Proofs.Build.Maps
import ComponentCompiler.Proofs.Cache.Run
import ComponentCompiler.Proofs.Build.Dependencies
import ComponentCompiler.Proofs.Build.Formats
import ComponentCompiler.Proofs.Build.Reading
import ComponentCompiler.Proofs.Build.Pairs
import ComponentCompiler.Proofs.Build.Complaints
import ComponentCompiler.Proofs.Build.Sources
import ComponentCompiler.Proofs.Cache.Changes
import ComponentCompiler.Proofs.Cache.Opening
import ComponentCompiler.Proofs.Cache.Sessions
import ComponentCompiler.Proofs.Loader.Calls
import ComponentCompiler.Proofs.Loader.Nesting
import ComponentCompiler.Proofs.Loader.Interleaving
import ComponentCompiler.Proofs.SourceMap.Embedding
import ComponentCompiler.Proofs.SourceMap.Dropping
import ComponentCompiler.Proofs.SourceMap.Order
import ComponentCompiler.Proofs.Cache.Readback
import ComponentCompiler.Proofs.Loader.Idempotence
import ComponentCompiler.Proofs.Cache.Reopening
import ComponentCompiler.Proofs.Cache.Confinement
import ComponentCompiler.Proofs.Loader.Transparency
import ComponentCompiler.Proofs.Documents
import ComponentCompiler.Proofs.Json.Exchange
import ComponentCompiler.Proofs.Json.Printed
import ComponentCompiler.Proofs.Collaborator.Calls
import ComponentCompiler.Proofs.Collaborator.Channel
import ComponentCompiler.Proofs.Collaborator.Turns
import ComponentCompiler.Proofs.Collaborator.Replies
import ComponentCompiler.Proofs.Module.Assignments
import ComponentCompiler.Proofs.Text.Places
import ComponentCompiler.Proofs.Module.AssetComments
import ComponentCompiler.Proofs.Module.NamedImports
import ComponentCompiler.Proofs.Module.Spreading
import ComponentCompiler.Proofs.Build.ExternalScripts
import ComponentCompiler.Proofs.Text.Words
import ComponentCompiler.Proofs.Module.Bindings
import ComponentCompiler.Proofs.Path.Slashed
import ComponentCompiler.Proofs.Path.Ancestors
import ComponentCompiler.Proofs.Cache.Inside
import ComponentCompiler.Proofs.SourceMap.Identity
import ComponentCompiler.Proofs.Diagnostic.Reporting
import ComponentCompiler.Proofs.Source.Columns
import ComponentCompiler.Proofs.Source.Counting
import ComponentCompiler.Proofs.Source.Drawing
import ComponentCompiler.Proofs.Source.Units
import ComponentCompiler.Proofs.SourceMap.Contents
import ComponentCompiler.Proofs.SourceMap.Ranges
import ComponentCompiler.Proofs.SourceMap.Reached
import ComponentCompiler.Proofs.Cache.Emptying
import ComponentCompiler.Proofs.CommandLine.Caching
import ComponentCompiler.Proofs.Cache.Status
import ComponentCompiler.Proofs.Version
import ComponentCompiler.Proofs.Collaborator.Complaints
import ComponentCompiler.Proofs.Cache.Failing
import ComponentCompiler.Proofs.Config.Reloading
import ComponentCompiler.Proofs.SourceMap.SourceLines
import ComponentCompiler.Proofs.Component.Remembering
