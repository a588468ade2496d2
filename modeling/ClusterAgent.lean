import ClusterAgent.Binary64.Basic
import ClusterAgent.Binary64.Bits
import ClusterAgent.Binary64.Decimal
import ClusterAgent.Binary64.Places
import ClusterAgent.BindAddress
import ClusterAgent.CivilTime
import ClusterAgent.CommandLine.Guarded
import ClusterAgent.CommandLine.Option
import ClusterAgent.CommandLine.Value
import ClusterAgent.CommandLine.Verbatim
import ClusterAgent.Container.Backend
import ClusterAgent.Container.Client
import ClusterAgent.Container.Request
import ClusterAgent.Container.Service
import ClusterAgent.Coordinator.Basic
import ClusterAgent.Coordinator.Jobs
import ClusterAgent.Coordinator.Options
import ClusterAgent.Coordinator.Service
import ClusterAgent.Duration
import ClusterAgent.Environment
import ClusterAgent.Event
import ClusterAgent.Failure.Basic
import ClusterAgent.Failure.Reports
import ClusterAgent.Fetched
import ClusterAgent.Heap
import ClusterAgent.Json.Encoding
import ClusterAgent.Json.Printer
import ClusterAgent.Json.Reader
import ClusterAgent.Json.Value
import ClusterAgent.Launch.Assembly
import ClusterAgent.Launch.Parameters
import ClusterAgent.Launch.Spec
import ClusterAgent.Launch.Start
import ClusterAgent.Log
import ClusterAgent.Log.Formatter
import ClusterAgent.Log.Settings
import ClusterAgent.Log.Template
import ClusterAgent.Main
import ClusterAgent.MessagePack.Literal
import ClusterAgent.MessagePack.Reader
import ClusterAgent.MessagePack.Value
import ClusterAgent.MessagePack.Writer
import ClusterAgent.Number
import ClusterAgent.Resource
import ClusterAgent.Schema.Datum
import ClusterAgent.Schema.Fault
import ClusterAgent.Schema.Integer
import ClusterAgent.Schema.Literal
import ClusterAgent.Schema.Record
import ClusterAgent.Schema.Report
import ClusterAgent.Settings
import ClusterAgent.Status.Client
import ClusterAgent.Status.Fault
import ClusterAgent.Status.Handler
import ClusterAgent.Status.Job
import ClusterAgent.Status.Message
import ClusterAgent.Status.Outcome
import ClusterAgent.Status.Rendering
import ClusterAgent.Status.Reply
import ClusterAgent.Status.Routing
import ClusterAgent.Status.Server
import ClusterAgent.Storage.Basic
import ClusterAgent.Storage.ClientOptions
import ClusterAgent.Storage.Error
import ClusterAgent.Storage.FileTree
import ClusterAgent.Storage.Files
import ClusterAgent.Storage.LocalPath
import ClusterAgent.Storage.ObjectStore
import ClusterAgent.Storage.Record
import ClusterAgent.Storage.Timestamp
import ClusterAgent.Subcommand.Basic
import ClusterAgent.Subcommand.Host
import ClusterAgent.Subcommand.Launch
import ClusterAgent.Subcommand.Result
import ClusterAgent.Subcommand.Run
import ClusterAgent.Table
import ClusterAgent.Text.Blank
import ClusterAgent.Text.Case
import ClusterAgent.Text.CodePoint
import ClusterAgent.Text.Digit
import ClusterAgent.Text.Letter
import ClusterAgent.Text.Numeral
import ClusterAgent.Text.Printable
import ClusterAgent.Text.Quoted
import ClusterAgent.Text.Terminal
import ClusterAgent.Text.Undecodable
import ClusterAgent.Text.Utf8
import ClusterAgent.Token.Basic
import ClusterAgent.Token.Bundle
import ClusterAgent.Token.Credentials
import ClusterAgent.Token.Error
import ClusterAgent.Token.Service
import ClusterAgent.Token.Session
import ClusterAgent.Token.Storage
import ClusterAgent.Uri.Address
import ClusterAgent.Uri.Basic
import ClusterAgent.Uri.Locator
import ClusterAgent.Uri.Quoting
import ClusterAgent.World
import ClusterAgent.Proofs.Binary64.Rounding
import ClusterAgent.Proofs.Binary64.Arithmetic
import ClusterAgent.Proofs.Heap
import ClusterAgent.Proofs.Table
import ClusterAgent.Proofs.Text.Utf8
import ClusterAgent.Proofs.MessagePack.Reader
import ClusterAgent.Proofs.MessagePack.Word
import ClusterAgent.Proofs.MessagePack.Scalar
import ClusterAgent.Proofs.MessagePack.Container
import ClusterAgent.Proofs.MessagePack.Document
import ClusterAgent.Proofs.Schema.Record
import ClusterAgent.Proofs.Token.Storage
import ClusterAgent.Proofs.Json.Text
import ClusterAgent.Proofs.Json.Integer
import ClusterAgent.Proofs.Json.Document
import ClusterAgent.Proofs.Json.Encoding
import ClusterAgent.Proofs.Schema.Datum
import ClusterAgent.Proofs.Status.Job
import ClusterAgent.Proofs.Status.Query
import ClusterAgent.Proofs.World
import ClusterAgent.Proofs.Json.Spelling
import ClusterAgent.Proofs.Status.Rendering
import ClusterAgent.Proofs.Json.Reading
import ClusterAgent.Proofs.Status.Reply
import ClusterAgent.Proofs.Status.Handler
import ClusterAgent.Proofs.Text.Blank
import ClusterAgent.Proofs.Uri.Basic
import ClusterAgent.Proofs.Uri.Quoting
import ClusterAgent.Proofs.Storage.FileTree
import ClusterAgent.Proofs.Storage.Files
import ClusterAgent.Proofs.Storage.LocalPath
import ClusterAgent.Proofs.Storage.Mounted
import ClusterAgent.Proofs.Storage.Object
import ClusterAgent.Proofs.Storage.Place
import ClusterAgent.Proofs.Storage.Below
import ClusterAgent.Proofs.Storage.Frame
import ClusterAgent.Proofs.Resource
import ClusterAgent.Proofs.Token.Bundle
import ClusterAgent.Proofs.Token.Service
import ClusterAgent.Proofs.Token.Issuance
import ClusterAgent.Proofs.Token.Addressing
import ClusterAgent.Proofs.Launch.Assembly
import ClusterAgent.Proofs.Launch.Credentials
import ClusterAgent.Proofs.Launch.Resources
import ClusterAgent.Proofs.Storage.Refusal
import ClusterAgent.Proofs.Launch.Abortion
import ClusterAgent.Proofs.Launch.Mounts
import ClusterAgent.Proofs.Storage.Selection
import ClusterAgent.Proofs.Pairing
import ClusterAgent.Proofs.Storage.Qualified
import ClusterAgent.Proofs.Storage.Parents
import ClusterAgent.Proofs.Storage.Sessions
import ClusterAgent.Proofs.Staging
import ClusterAgent.Proofs.Token.Secrecy
import ClusterAgent.Proofs.Launch.Report
import ClusterAgent.Proofs.Launch.Secrecy
import ClusterAgent.Proofs.Environment
import ClusterAgent.Proofs.Launch.Environment
import ClusterAgent.Proofs.Launch.Handover
import ClusterAgent.Proofs.Storage.Timestamp
import ClusterAgent.Proofs.MessagePack.Equality
import ClusterAgent.Proofs.Grouping
import ClusterAgent.Proofs.Token.Aliases
import ClusterAgent.Proofs.Uri.Address
import ClusterAgent.Proofs.Uri.Authority
import ClusterAgent.Proofs.BindAddress
import ClusterAgent.Proofs.Text.Numeral
import ClusterAgent.Proofs.Text.Case
import ClusterAgent.Proofs.Duration
import ClusterAgent.Proofs.Binary64.Canonical
import ClusterAgent.Proofs.Binary64.Decimal
import ClusterAgent.Proofs.Binary64.Shortest
import ClusterAgent.Proofs.Binary64.Text
import ClusterAgent.Proofs.Json.Float
import ClusterAgent.Proofs.Json.Surrogates
import ClusterAgent.Proofs.Json.Ascii
import ClusterAgent.Proofs.Json.Produced
import ClusterAgent.Proofs.Subcommand.Jobs
