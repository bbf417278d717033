import ImportWeights.CommandLine.Help
import ImportWeights.CommandLine.Parse
import ImportWeights.CommandLine.Spec
import ImportWeights.CommandLine.Usage
import ImportWeights.Decimal.Shortest
import ImportWeights.Digest.Sha256
import ImportWeights.Dispatch.Dispatcher
import ImportWeights.Dispatch.Pipeline
import ImportWeights.Dispatch.Service
import ImportWeights.Events.Event
import ImportWeights.Events.Hub
import ImportWeights.Fetch.CloneError
import ImportWeights.Fetch.Cloner
import ImportWeights.Fetch.Fetcher
import ImportWeights.Files.OsError
import ImportWeights.Files.Path
import ImportWeights.Files.Tree
import ImportWeights.Http.ContentType
import ImportWeights.Http.Router
import ImportWeights.Jobs.Job
import ImportWeights.Jobs.Queue
import ImportWeights.Json.Number
import ImportWeights.Json.Reader
import ImportWeights.Json.Written
import ImportWeights.Launch
import ImportWeights.Logging.Context
import ImportWeights.Logging.Entry
import ImportWeights.Logging.Filter
import ImportWeights.Logging.Layout
import ImportWeights.Logging.Logger
import ImportWeights.Main
import ImportWeights.Net.SocketAddress
import ImportWeights.Proofs.Dispatch.Delivery
import ImportWeights.Proofs.Dispatch.Draining
import ImportWeights.Proofs.Dispatch.Figures
import ImportWeights.Proofs.Dispatch.Placement
import ImportWeights.Proofs.Dispatch.Processing
import ImportWeights.Proofs.Dispatch.Record
import ImportWeights.Proofs.Dispatch.Run
import ImportWeights.Proofs.Dispatch.Stopping
import ImportWeights.Proofs.Dispatch.Tally
import ImportWeights.Proofs.Events.Publication
import ImportWeights.Proofs.Events.Run
import ImportWeights.Proofs.Events.Subscriptions
import ImportWeights.Proofs.Fetch.Checkout
import ImportWeights.Proofs.Fetch.HostAlone
import ImportWeights.Proofs.Fetch.Naming
import ImportWeights.Proofs.Fetch.Outcome
import ImportWeights.Proofs.Fetch.Task
import ImportWeights.Proofs.Files.Content
import ImportWeights.Proofs.Files.Joined
import ImportWeights.Proofs.Files.Names
import ImportWeights.Proofs.Files.Places
import ImportWeights.Proofs.Files.Tree
import ImportWeights.Proofs.Http.Submission
import ImportWeights.Proofs.Jobs.Backlog
import ImportWeights.Proofs.Jobs.Conservation
import ImportWeights.Proofs.Jobs.Flow
import ImportWeights.Proofs.Jobs.Run
import ImportWeights.Proofs.Report.Endpoint
import ImportWeights.Proofs.Report.Painting
import ImportWeights.Proofs.Report.Printing
import ImportWeights.Proofs.Report.Row
import ImportWeights.Proofs.Report.Table
import ImportWeights.Proofs.Repository.Breaking
import ImportWeights.Proofs.Repository.Folder
import ImportWeights.Proofs.Repository.HostAlone
import ImportWeights.Proofs.Repository.HostDecides
import ImportWeights.Proofs.Repository.Reading
import ImportWeights.Proofs.Repository.Segment
import ImportWeights.Proofs.Repository.Shorthand
import ImportWeights.Proofs.Repository.Spelling
import ImportWeights.Proofs.Scan.Candidates
import ImportWeights.Proofs.Scan.Confinement
import ImportWeights.Proofs.Scan.Contents
import ImportWeights.Proofs.Scan.Exclusion
import ImportWeights.Proofs.Scan.Extraction
import ImportWeights.Proofs.Scan.LineLimit
import ImportWeights.Proofs.Scan.Records
import ImportWeights.Proofs.Scan.Walk
import ImportWeights.Proofs.Session.ExitCode
import ImportWeights.Proofs.Session.OneShot
import ImportWeights.Proofs.Settings.Layers
import ImportWeights.Proofs.Settings.Rejection
import ImportWeights.Proofs.Settings.Verdict
import ImportWeights.Proofs.Shutdown.Waiting
import ImportWeights.Proofs.Source.Block
import ImportWeights.Proofs.Source.BoundedLine
import ImportWeights.Proofs.Source.Clean
import ImportWeights.Proofs.Source.Core
import ImportWeights.Proofs.Source.Feeding
import ImportWeights.Proofs.Text.Ascii
import ImportWeights.Proofs.Text.ByteOrder
import ImportWeights.Proofs.Text.Encoding
import ImportWeights.Proofs.Text.Pieces
import ImportWeights.Proofs.Text.Trim
import ImportWeights.Proofs.Text.Utf8
import ImportWeights.Proofs.Url.Authority
import ImportWeights.Proofs.Url.Closing
import ImportWeights.Proofs.Url.DomainName
import ImportWeights.Proofs.Url.Escaping
import ImportWeights.Proofs.Url.Form
import ImportWeights.Proofs.Url.HostAlone
import ImportWeights.Proofs.Url.HostName
import ImportWeights.Proofs.Url.PathEnd
import ImportWeights.Proofs.Url.Reach
import ImportWeights.Proofs.Url.Within
import ImportWeights.Proofs.Weights.Counting
import ImportWeights.Proofs.Weights.Heaviest
import ImportWeights.Proofs.Weights.Lookup
import ImportWeights.Proofs.Weights.Pairs
import ImportWeights.Report.Console
import ImportWeights.Report.Diagram
import ImportWeights.Report.Error
import ImportWeights.Report.Reporter
import ImportWeights.Report.ScanReport
import ImportWeights.Report.Style
import ImportWeights.Report.Table
import ImportWeights.Report.Timestamp
import ImportWeights.Repository.Folder
import ImportWeights.Repository.Locator
import ImportWeights.Repository.Validation
import ImportWeights.Scan.Error
import ImportWeights.Scan.Filter
import ImportWeights.Scan.Pattern
import ImportWeights.Scan.Scanner
import ImportWeights.Scan.Walk
import ImportWeights.Session
import ImportWeights.Settings.Choice
import ImportWeights.Settings.ConfigFile
import ImportWeights.Settings.Error
import ImportWeights.Settings.Options
import ImportWeights.Settings.Resolve
import ImportWeights.Shutdown.Coordinator
import ImportWeights.Shutdown.Signals
import ImportWeights.Source.BoundedLine
import ImportWeights.Source.FileParser
import ImportWeights.Source.Line
import ImportWeights.Source.Record
import ImportWeights.Text.Ascii
import ImportWeights.Text.Blank
import ImportWeights.Text.Pieces
import ImportWeights.Text.Quoted
import ImportWeights.Text.Trim
import ImportWeights.Text.Unprintable
import ImportWeights.Text.Utf8
import ImportWeights.Toml.Quoted
import ImportWeights.Toml.Reader
import ImportWeights.Toml.Scalar
import ImportWeights.Toml.Value
import ImportWeights.Url.Form
import ImportWeights.Url.Host
import ImportWeights.Url.Parse
import ImportWeights.Url.Percent
import ImportWeights.Url.Punycode
import ImportWeights.Weights
