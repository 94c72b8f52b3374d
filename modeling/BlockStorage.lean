import BlockStorage.Resource.Format
import BlockStorage.Cluster.Basic
import BlockStorage.Command.Reference
import BlockStorage.Output.Display
import BlockStorage.Duration
import BlockStorage.Export
import BlockStorage.Ident
import BlockStorage.Selector
import BlockStorage.Size
import BlockStorage.Toml.Reader
import BlockStorage.Files
import BlockStorage.Settings.Log
import BlockStorage.Settings.File
import BlockStorage.Settings.Basic
import BlockStorage.Command.Basic
import BlockStorage.CommandLine.Grammar
import BlockStorage.CommandLine.Level
import BlockStorage.CommandLine.Parser
import BlockStorage.Log.Event
import BlockStorage.Run.Program
import BlockStorage.Run.World
import BlockStorage.Run.Stage
import BlockStorage.Run.Invocation
import BlockStorage.Command.Lookup
import BlockStorage.Command.Plan
import BlockStorage.Cluster.Answer
import BlockStorage.Text.Percent
import BlockStorage.Text.Punycode
import BlockStorage.Text.Alphanumeric
import BlockStorage.Rest.Host
import BlockStorage.Rest.Url
import BlockStorage.Rest.Message
import BlockStorage.Rest.Reply
import BlockStorage.Rest.Answer
import BlockStorage.Cluster.Callable
import BlockStorage.Rest.Client
import BlockStorage.Log.Directive
import BlockStorage.Log.Filter
import BlockStorage.Log.File
import BlockStorage.Run.Process
import BlockStorage.Main
import BlockStorage.Proofs.Failure
import BlockStorage.Proofs.Inventory.Token
import BlockStorage.Proofs.Inventory.Record
import BlockStorage.Proofs.Inventory.Soundness
import BlockStorage.Proofs.Inventory.Operations
import BlockStorage.Proofs.Cluster.History
import BlockStorage.Proofs.Cluster.CompareAndSwap
import BlockStorage.Proofs.Cluster.Atomicity
import BlockStorage.Proofs.Run.Exchange
import BlockStorage.Proofs.Run.Phases
import BlockStorage.Proofs.Run.Stages
import BlockStorage.Proofs.Command.Bodies
import BlockStorage.Proofs.Command.Handler
import BlockStorage.Proofs.Command.Transcript
import BlockStorage.Proofs.Command.Rejection
import BlockStorage.Proofs.Text.Percent
import BlockStorage.Proofs.Text.Blank
import BlockStorage.Proofs.Text.Split
import BlockStorage.Proofs.Text.Numeral
import BlockStorage.Proofs.Text.Grammar
import BlockStorage.Proofs.Output.Sink
import BlockStorage.Proofs.Output.Table
import BlockStorage.Proofs.Labels.Text
import BlockStorage.Proofs.Time.Timestamp
import BlockStorage.Proofs.Document.Shape
import BlockStorage.Proofs.Document.Leaf
import BlockStorage.Proofs.Document.Json
import BlockStorage.Proofs.Document.Form
import BlockStorage.Proofs.Resource.Format
import BlockStorage.Proofs.Resource.RoundTrip
import BlockStorage.Proofs.Selector.Reading
import BlockStorage.Proofs.Selector.Conjunction
import BlockStorage.Proofs.Export.Reading
import BlockStorage.Proofs.Export.Grammar
import BlockStorage.Proofs.Size.Literal
import BlockStorage.Proofs.Number.Binary64
import BlockStorage.Proofs.Size.Point
import BlockStorage.Proofs.Duration.Literal
import BlockStorage.Proofs.Rest.Path
import BlockStorage.Proofs.Inventory.Capacity
import BlockStorage.Proofs.Cluster.Capacity
import BlockStorage.Proofs.Run.Evaluation
import BlockStorage.Proofs.Command.Comparison
import BlockStorage.Proofs.Command.Resolution
import BlockStorage.Proofs.Command.Selection
import BlockStorage.Proofs.Command.Modes
import BlockStorage.Proofs.Inventory.Uniqueness
import BlockStorage.Proofs.Cluster.Uniqueness
import BlockStorage.Proofs.Context.Forest
import BlockStorage.Proofs.Context.Cancellation
import BlockStorage.Proofs.Context.Deadline
import BlockStorage.Proofs.Rest.Deadline
import BlockStorage.Proofs.Rest.Parameters
import BlockStorage.Proofs.Rest.Constraints
import BlockStorage.Proofs.Command.Changes
import BlockStorage.Proofs.Rest.Transmission
import BlockStorage.Proofs.Inventory.Update
import BlockStorage.Proofs.Cluster.Commutation
import BlockStorage.Proofs.Cluster.Effect
import BlockStorage.Proofs.Cluster.Housing
import BlockStorage.Proofs.Inventory.Acceptance
import BlockStorage.Proofs.Inventory.Effect
import BlockStorage.Proofs.Command.Acceptance
import BlockStorage.Proofs.Command.Standstill
import BlockStorage.Proofs.Command.Arguments
import BlockStorage.Proofs.Rest.Endpoints
import BlockStorage.Proofs.CommandLine.Given
import BlockStorage.Proofs.Settings.Layers
import BlockStorage.Proofs.Run.Deadline
import BlockStorage.Proofs.Run.Observation
import BlockStorage.Proofs.Command.Namespace
import BlockStorage.Proofs.Command.Wait
import BlockStorage.Proofs.Command.Timeout
import BlockStorage.Proofs.Inventory.Placement
import BlockStorage.Proofs.Cluster.Placement
import BlockStorage.Proofs.Rest.Session
import BlockStorage.Proofs.Rest.Failures
import BlockStorage.Proofs.Inventory.Licence
import BlockStorage.Proofs.Run.Explanation
import BlockStorage.Proofs.Run.Output
import BlockStorage.Proofs.Command.LicenceLimit
import BlockStorage.Proofs.Run.Nesting
import BlockStorage.Proofs.Size.Readable
