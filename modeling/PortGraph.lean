import PortGraph.Backend
import PortGraph.Blake3
import PortGraph.Body
import PortGraph.Cache.Key
import PortGraph.Cache.Store
import PortGraph.CommandLine.Arguments
import PortGraph.CommandLine.Execution
import PortGraph.CommandLine.Files
import PortGraph.CommandLine.Help
import PortGraph.CommandLine.Log
import PortGraph.Compile.Cycle
import PortGraph.Compile.Error
import PortGraph.Compile.Levels
import PortGraph.Compile.Report
import PortGraph.Compile.Structure
import PortGraph.Config
import PortGraph.Context
import PortGraph.Document
import PortGraph.Engine.Basic
import PortGraph.Engine.Run
import PortGraph.Engine.Setup
import PortGraph.Event
import PortGraph.Graph
import PortGraph.InProcess
import PortGraph.Json.Basic
import PortGraph.Json.Parser
import PortGraph.Json.Printer
import PortGraph.Json.Token
import PortGraph.Json.Written
import PortGraph.Manifest
import PortGraph.NodeError
import PortGraph.Nodes.Arithmetic
import PortGraph.Nodes.Builtin
import PortGraph.Nodes.Settings
import PortGraph.Nodes.Threshold
import PortGraph.Nodes.Values
import PortGraph.Number.Binary
import PortGraph.Number.Decimal
import PortGraph.Number.Hex
import PortGraph.Pattern.Basic
import PortGraph.Pattern.Bracket
import PortGraph.Pattern.CharSet
import PortGraph.Pattern.Escape
import PortGraph.Pattern.Options
import PortGraph.Pattern.Parser
import PortGraph.Plan
import PortGraph.PortType
import PortGraph.Registry
import PortGraph.Rehearsal
import PortGraph.Remote.Http
import PortGraph.Remote.Polling
import PortGraph.Remote.Task
import PortGraph.Result
import PortGraph.Table
import PortGraph.Text.Blank
import PortGraph.Text.CaseTable
import PortGraph.Text.CodeTable
import PortGraph.Text.CombiningTable
import PortGraph.Text.Composition
import PortGraph.Text.EscapeTable
import PortGraph.Text.LetterTable
import PortGraph.Text.Lowercase
import PortGraph.Text.Quoted
import PortGraph.Text.Split
import PortGraph.Url.Basic
import PortGraph.Url.Host
import PortGraph.Url.Label
import PortGraph.Url.LabelTable
import PortGraph.Url.Name
import PortGraph.Url.NameTable
import PortGraph.Url.Percent
import PortGraph.Url.Punycode
import PortGraph.Validation
import PortGraph.Work.Basic
import PortGraph.Work.Pool
import PortGraph.Work.World
import PortGraph.Main
import PortGraph.Proofs.Compile.Levels
import PortGraph.Proofs.Compile.Structure
import PortGraph.Proofs.Compile.Phases
import PortGraph.Proofs.Compile.Layers
import PortGraph.Proofs.Compile.Cycle
import PortGraph.Proofs.Work.Settles
import PortGraph.Proofs.Work.Pool
import PortGraph.Proofs.Work.Ensures
import PortGraph.Proofs.Work.Sharing
import PortGraph.Proofs.Work.Ends
import PortGraph.Proofs.Work.Telling
import PortGraph.Proofs.Work.Chronicle
import PortGraph.Proofs.Work.Driving
import PortGraph.Proofs.Engine.Dataflow
import PortGraph.Proofs.Engine.Run
import PortGraph.Proofs.Engine.Semantics
import PortGraph.Proofs.Number.Nearest
import PortGraph.Proofs.Number.Shortest
import PortGraph.Proofs.Json.Number
import PortGraph.Proofs.Json.Printer
import PortGraph.Proofs.Json.Collation
import PortGraph.Proofs.Cache.Key
import PortGraph.Proofs.Cache.Store
import PortGraph.Proofs.Engine.Session
import PortGraph.Proofs.Engine.Course
import PortGraph.Proofs.Engine.Keys
import PortGraph.Proofs.Validation
import PortGraph.Proofs.Registry
import PortGraph.Proofs.Remote.Polling
import PortGraph.Proofs.Remote.Service
import PortGraph.Proofs.InProcess
import PortGraph.Proofs.Engine.Agreement
import PortGraph.Proofs.Engine.Calls
import PortGraph.Proofs.Engine.Interchange
import PortGraph.Proofs.Engine.Story
import PortGraph.Proofs.Engine.Log
import PortGraph.Proofs.Engine.Coverage
import PortGraph.Proofs.Engine.Isolation
import PortGraph.Proofs.Engine.Stopping
import PortGraph.Proofs.Engine.Stages
import PortGraph.Proofs.Engine.Annals
import PortGraph.Proofs.Engine.Reruns
import PortGraph.Proofs.Work.Steps
import PortGraph.Proofs.Work.Heeding
import PortGraph.Proofs.Remote.Pauses
import PortGraph.Proofs.Engine.Waiting
import PortGraph.Proofs.Engine.Midway
import PortGraph.Proofs.Engine.Cancelling
import PortGraph.Proofs.Compile.Report
import PortGraph.Proofs.Cache.Ledger
import PortGraph.Proofs.Work.Ghosts
import PortGraph.Proofs.Engine.Records
import PortGraph.Proofs.Engine.Metering
import PortGraph.Proofs.Engine.Tally
import PortGraph.Proofs.Engine.Company
import PortGraph.Proofs.Engine.Contents
import PortGraph.Proofs.Engine.Typing
import PortGraph.Proofs.Engine.Unfed
import PortGraph.Proofs.Engine.Wiring
import PortGraph.Proofs.Schema
import PortGraph.Proofs.Work.Alone
import PortGraph.Proofs.Retries
import PortGraph.Proofs.Number.Rounding
import PortGraph.Proofs.Remote.Intervals
import PortGraph.Proofs.Remote.Timesheet
import PortGraph.Proofs.Registry.Registration
import PortGraph.Proofs.Registry.Recommendation
import PortGraph.Proofs.Number.Range
import PortGraph.Proofs.Nodes.Builtin
import PortGraph.Proofs.Json.Arrangement
import PortGraph.Proofs.Number.Widening
import PortGraph.Proofs.Document
import PortGraph.Proofs.Wire
import PortGraph.Proofs.Manifest
import PortGraph.Proofs.Json.Reading
import PortGraph.Proofs.Config.File
import PortGraph.Proofs.Config.Overrides
import PortGraph.Proofs.Delays
import PortGraph.Proofs.Number.Order
import PortGraph.Proofs.Work.Reporting
import PortGraph.Proofs.Nodes.Threshold
import PortGraph.Proofs.Nodes.Arithmetic
import PortGraph.Proofs.Engine.Arithmetic
import PortGraph.Proofs.Compile.Countdown
import PortGraph.Proofs.Cache.Sections
import PortGraph.Proofs.Text.Lowercase
import PortGraph.Proofs.Registry.Search
import PortGraph.Proofs.Pattern
