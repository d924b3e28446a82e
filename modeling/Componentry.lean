import Componentry.CommandLine.Arguments
import Componentry.CommandLine.Elapsed
import Componentry.CommandLine.Help
import Componentry.CommandLine.Invocation
import Componentry.CommandLine.Report
import Componentry.CommandLine.Run
import Componentry.CommandLine.Sources
import Componentry.CommandLine.Style
import Componentry.Composition.Element
import Componentry.Composition.Extensions
import Componentry.Composition.Fault
import Componentry.Composition.Initializer
import Componentry.Composition.Plugin.Basic
import Componentry.Composition.Plugin.Corba
import Componentry.Composition.Plugin.MessageQueue
import Componentry.Composition.Plugin.Ros
import Componentry.Composition.Plugin.Shared
import Componentry.Composition.Plugin.TypeInfo
import Componentry.Composition.Plugin.Typelib
import Componentry.Composition.QtInitializers
import Componentry.Composition.TaskCode
import Componentry.Composition.Template
import Componentry.Composition.TypeName
import Componentry.Descriptor.Basic
import Componentry.Descriptor.Parser
import Componentry.Diagnostic
import Componentry.Digest.Blake3
import Componentry.Entity
import Componentry.FileTree.Basic
import Componentry.FileTree.Change
import Componentry.Fingerprint
import Componentry.Generation.Artifacts
import Componentry.Generation.Error
import Componentry.Generation.Request
import Componentry.Generation.Run
import Componentry.Json.Basic
import Componentry.Json.Fields
import Componentry.Json.Lexer
import Componentry.Json.Parser
import Componentry.Json.Printer
import Componentry.Main
import Componentry.Naming
import Componentry.Path
import Componentry.Registry.Basic
import Componentry.Registry.Draft
import Componentry.Registry.Scan
import Componentry.Registry.Snapshot
import Componentry.Session
import Componentry.Settings
import Componentry.Store.Basic
import Componentry.Store.Directory
import Componentry.Store.Memory
import Componentry.Text.Blank
import Componentry.Text.Case
import Componentry.Text.CaseTable
import Componentry.Text.Layout
import Componentry.Text.LetterTable
import Componentry.Text.Letters
import Componentry.Text.Lines
import Componentry.Text.Pieces
import Componentry.Text.PlainTable
import Componentry.Text.Quoted
import Componentry.Text.Ranges
import Componentry.Text.Utf8
import Componentry.Toml.Basic
import Componentry.Toml.Lexer
import Componentry.Toml.Parser
import Componentry.Toml.Scalar
import Componentry.TypeList
import Componentry.Proofs.Answers
import Componentry.Proofs.RecordNames
import Componentry.Proofs.Registry.Loading
import Componentry.Proofs.Tables
import Componentry.Proofs.Registry.Admission
import Componentry.Proofs.Registry.Survey
import Componentry.Proofs.Registry.Entities
import Componentry.Proofs.MemoryStores
import Componentry.Proofs.Registry.Outcomes
import Componentry.Proofs.Registry.Counts
import Componentry.Proofs.Registry.Types
import Componentry.Proofs.Registry.Indices
import Componentry.Proofs.Registry.Faults
import Componentry.Proofs.Registry.Queries
import Componentry.Proofs.Registry.Removal
import Componentry.Proofs.Sessions
import Componentry.Proofs.Paths
import Componentry.Proofs.Text.Lines
import Componentry.Proofs.Text.Layouts
import Componentry.Proofs.Composition.Initializers
import Componentry.Proofs.Generation.Places
import Componentry.Proofs.Generation.Tasks
import Componentry.Proofs.Generation.Deployments
import Componentry.Proofs.Composition.Plugins
import Componentry.Proofs.Generation.Typekits
import Componentry.Proofs.Generation.Acceptance
import Componentry.Proofs.Generation.Items
import Componentry.Proofs.Generation.Outputs
import Componentry.Proofs.Generation.RequestOrder
import Componentry.Proofs.Generation.Contents
import Componentry.Proofs.Generation.Rejection
import Componentry.Proofs.FileTree.Steps
import Componentry.Proofs.FileTree.Walks
import Componentry.Proofs.FileTree.Ways
import Componentry.Proofs.FileTree.Changes
import Componentry.Proofs.FileTree.Descents
import Componentry.Proofs.FileTree.Replacements
import Componentry.Proofs.FileTree.Containment
import Componentry.Proofs.Generation.OutputPaths
import Componentry.Proofs.FileTree.Deliveries
import Componentry.Proofs.Generation.Writing
import Componentry.Proofs.Generation.FailedWrites
import Componentry.Proofs.Generation.WrittenRuns
import Componentry.Proofs.Registry.Agreement
import Componentry.Proofs.Store.RecordFiles
import Componentry.Proofs.Store.Searches
import Componentry.Proofs.Store.Mirrors
import Componentry.Proofs.Registry.Consistency
import Componentry.Proofs.Store.Visits
import Componentry.Proofs.Store.Rebuilds
import Componentry.Proofs.Descriptor.Values
import Componentry.Proofs.Descriptor.Interpreter
import Componentry.Proofs.Descriptor.Parsing
import Componentry.Proofs.Text.Runs
import Componentry.Proofs.Composition.Slots
import Componentry.Proofs.Composition.Templates
import Componentry.Proofs.Json.Spellings
import Componentry.Proofs.Json.RoundTrips
import Componentry.Proofs.Json.Records
import Componentry.Proofs.Generation.RequestDocuments
import Componentry.Proofs.Registry.Fingerprints
import Componentry.Proofs.Generation.KitTypes
import Componentry.Proofs.Composition.Registrations
import Componentry.Proofs.Generation.Compositions
import Componentry.Proofs.Composition.Requests
import Componentry.Proofs.Composition.Nesting
import Componentry.Proofs.Descriptor.Definitions
import Componentry.Proofs.Descriptor.Escapes
import Componentry.Proofs.Descriptor.References
import Componentry.Proofs.RecordPatterns
import Componentry.Proofs.RecordClasses
import Componentry.Proofs.Registry.Schedules
import Componentry.Proofs.TypeLists
import Componentry.Proofs.Composition.PluginRuns
import Componentry.Proofs.Composition.TypeSpellings
import Componentry.Proofs.Composition.Identifiers
import Componentry.Proofs.Composition.ExportedTypes
import Componentry.Proofs.Composition.BuildLists
import Componentry.Proofs.Composition.Declarations
import Componentry.Proofs.Generation.TaskContexts
import Componentry.Proofs.Composition.RegisteredNames
import Componentry.Proofs.Generation.Insertions
import Componentry.Proofs.Descriptor.Lists
