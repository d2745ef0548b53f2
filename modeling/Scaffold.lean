import Scaffold.CommandLine.Command
import Scaffold.CommandLine.Error
import Scaffold.CommandLine.Level
import Scaffold.CommandLine.Parser
import Scaffold.CommandLine.Program
import Scaffold.Config.Environment
import Scaffold.Config.EnvironmentFile
import Scaffold.Config.Layers
import Scaffold.Config.Settings
import Scaffold.Document.Basic
import Scaffold.Document.Reader
import Scaffold.Document.Source
import Scaffold.Error
import Scaffold.Files.Basic
import Scaffold.Files.Disk
import Scaffold.Files.Memory
import Scaffold.Files.OnDisk
import Scaffold.Guard.Condition
import Scaffold.Guard.Parser
import Scaffold.Guard.Token
import Scaffold.Guard.When
import Scaffold.Install.Command
import Scaffold.Install.Manager
import Scaffold.Json.Basic
import Scaffold.Json.Numeral
import Scaffold.Json.Parser
import Scaffold.Json.Printer
import Scaffold.Json.Shape
import Scaffold.Main
import Scaffold.Number.Binary64
import Scaffold.Number.Plain
import Scaffold.Number.Power
import Scaffold.Number.Shortest
import Scaffold.Path
import Scaffold.Pattern.Basic
import Scaffold.Pattern.Bracket
import Scaffold.Pattern.CharSet
import Scaffold.Pattern.Escape
import Scaffold.Pattern.Flags
import Scaffold.Pattern.Parser
import Scaffold.Proofs.Agenda
import Scaffold.Proofs.AnswersAhead
import Scaffold.Proofs.BuiltPaths
import Scaffold.Proofs.CallGraph
import Scaffold.Proofs.Calls
import Scaffold.Proofs.CheckedDocuments
import Scaffold.Proofs.Collisions
import Scaffold.Proofs.Completion
import Scaffold.Proofs.DefinitionCycles
import Scaffold.Proofs.Directories
import Scaffold.Proofs.DiskLaws
import Scaffold.Proofs.DocumentRoundTrip
import Scaffold.Proofs.DocumentSchema
import Scaffold.Proofs.DocumentSpelling
import Scaffold.Proofs.Effects
import Scaffold.Proofs.EnteredNames
import Scaffold.Proofs.ErrandTasks
import Scaffold.Proofs.FailFast
import Scaffold.Proofs.FailedJobs
import Scaffold.Proofs.FileHistories
import Scaffold.Proofs.FileJobs
import Scaffold.Proofs.FileLaws
import Scaffold.Proofs.FirstFaults
import Scaffold.Proofs.Gains
import Scaffold.Proofs.GroupBases
import Scaffold.Proofs.GuardGrammar
import Scaffold.Proofs.GuardReferences
import Scaffold.Proofs.GuardSpelling
import Scaffold.Proofs.Guards
import Scaffold.Proofs.InlineDirectives
import Scaffold.Proofs.Inlining
import Scaffold.Proofs.JobCalls
import Scaffold.Proofs.JobErrands
import Scaffold.Proofs.JsonNumerals
import Scaffold.Proofs.JsonRoundTrip
import Scaffold.Proofs.ListedPackages
import Scaffold.Proofs.LoadedContents
import Scaffold.Proofs.OfferedChoices
import Scaffold.Proofs.Outcome
import Scaffold.Proofs.Overwriting
import Scaffold.Proofs.Pieces
import Scaffold.Proofs.PromptRounds
import Scaffold.Proofs.Questions
import Scaffold.Proofs.ReadJobs
import Scaffold.Proofs.RecordShapes
import Scaffold.Proofs.ReferenceSpelling
import Scaffold.Proofs.Renames
import Scaffold.Proofs.Rereading
import Scaffold.Proofs.SavedStores
import Scaffold.Proofs.SegmentSpelling
import Scaffold.Proofs.SessionSteps
import Scaffold.Proofs.Sessions
import Scaffold.Proofs.SettingsUpdates
import Scaffold.Proofs.StoreFiles
import Scaffold.Proofs.StoreSessions
import Scaffold.Proofs.TableLaws
import Scaffold.Proofs.TableUpdates
import Scaffold.Proofs.Termination
import Scaffold.Proofs.Trails
import Scaffold.Proofs.Unbounded
import Scaffold.Proofs.WebAddresses
import Scaffold.Run.Destination
import Scaffold.Run.Frame
import Scaffold.Run.Job
import Scaffold.Run.Prompt
import Scaffold.Run.Service
import Scaffold.Run.Session
import Scaffold.Run.State
import Scaffold.Run.Traversal
import Scaffold.Run.Workspace
import Scaffold.Store.File
import Scaffold.Template.PathTemplate
import Scaffold.Template.Placeholder
import Scaffold.Template.Segment
import Scaffold.Terminal.Output
import Scaffold.Terminal.Style
import Scaffold.Text.Blank
import Scaffold.Text.CaseGroups
import Scaffold.Text.Category
import Scaffold.Text.Property
import Scaffold.Text.Quoted
import Scaffold.Text.Ranges
import Scaffold.Text.Script
import Scaffold.Toml.Basic
import Scaffold.Toml.Parser
import Scaffold.Toml.Printer
import Scaffold.Toml.Scalar
import Scaffold.Variables.Reference
import Scaffold.Variables.Table
