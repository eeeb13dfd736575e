import Logbook.Backend.Basic
import Logbook.Backend.Memory
import Logbook.Backend.Node
import Logbook.Backend.Wire
import Logbook.Cache
import Logbook.Calendar.Date
import Logbook.Calendar.Instant
import Logbook.Calendar.Offset
import Logbook.Calendar.Timestamp
import Logbook.Command.Argument
import Logbook.Command.Basic
import Logbook.Command.Line
import Logbook.Command.Options
import Logbook.Command.Run
import Logbook.Config.Basic
import Logbook.Config.Endpoint
import Logbook.Config.File
import Logbook.Document.Basic
import Logbook.Document.Exchange
import Logbook.Document.HealthCheck
import Logbook.Document.Monitoring
import Logbook.Document.RequestLog
import Logbook.Inquiry.Basic
import Logbook.Inquiry.Session
import Logbook.Json.Basic
import Logbook.Json.Fault
import Logbook.Json.Number
import Logbook.Json.Parser
import Logbook.Json.Pretty
import Logbook.Json.Printer
import Logbook.Json.Reader
import Logbook.Keyed
import Logbook.Main
import Logbook.Number.Binary64
import Logbook.Number.Decimal
import Logbook.Number.Digits
import Logbook.Number.Hexadecimal
import Logbook.Number.Layout
import Logbook.Number.Power
import Logbook.Number.Reading
import Logbook.Overflow
import Logbook.Partition
import Logbook.Proofs.Backend.Target
import Logbook.Proofs.Cache
import Logbook.Proofs.Cache.History
import Logbook.Proofs.Calendar.Date
import Logbook.Proofs.Calendar.DateText
import Logbook.Proofs.Calendar.OffsetText
import Logbook.Proofs.Calendar.Timestamp
import Logbook.Proofs.Command.DryRun
import Logbook.Proofs.Command.IntervalText
import Logbook.Proofs.Command.RangeKey
import Logbook.Proofs.Command.RangeText
import Logbook.Proofs.Command.Window
import Logbook.Proofs.Config.BareEndpoint
import Logbook.Proofs.Config.Written
import Logbook.Proofs.Document.HealthCheck
import Logbook.Proofs.Document.Instant
import Logbook.Proofs.Document.Legs
import Logbook.Proofs.Document.NullFields
import Logbook.Proofs.Document.OldStep
import Logbook.Proofs.Document.RequestLog
import Logbook.Proofs.Fallible
import Logbook.Proofs.Inquiry.Finding
import Logbook.Proofs.Inquiry.Looking
import Logbook.Proofs.Inquiry.Memory
import Logbook.Proofs.Inquiry.Narrowing
import Logbook.Proofs.Inquiry.Recording
import Logbook.Proofs.Inquiry.Run
import Logbook.Proofs.Inquiry.Search
import Logbook.Proofs.Json.Canonical
import Logbook.Proofs.Json.Equal
import Logbook.Proofs.Json.Fields
import Logbook.Proofs.Json.NullFields
import Logbook.Proofs.Json.NullRecord
import Logbook.Proofs.Json.OrderFree
import Logbook.Proofs.Json.Places
import Logbook.Proofs.Json.Record
import Logbook.Proofs.Json.Schema
import Logbook.Proofs.Json.Written
import Logbook.Proofs.Json.Yields
import Logbook.Proofs.Keyed
import Logbook.Proofs.Number.Binary64
import Logbook.Proofs.Number.Digits
import Logbook.Proofs.Number.PlainText
import Logbook.Proofs.Number.Rounding
import Logbook.Proofs.Number.Shortest
import Logbook.Proofs.Number.WholeText
import Logbook.Proofs.Overflow
import Logbook.Proofs.Partition.Coverage
import Logbook.Proofs.Partition.Days
import Logbook.Proofs.Partition.DefaultWindow
import Logbook.Proofs.Partition.Ends
import Logbook.Proofs.Partition.Listing
import Logbook.Proofs.Partition.Offset
import Logbook.Proofs.Partition.Reference
import Logbook.Proofs.Pointwise
import Logbook.Proofs.Query.SeriesName
import Logbook.Proofs.Query.TimeRange
import Logbook.Proofs.Query.Written
import Logbook.Proofs.Report.Extension
import Logbook.Proofs.Report.Groups
import Logbook.Proofs.Report.HealthWindows
import Logbook.Proofs.Report.Histogram
import Logbook.Proofs.Response.Availability
import Logbook.Proofs.Response.Extension
import Logbook.Proofs.Response.Gathering
import Logbook.Proofs.Response.Histogram
import Logbook.Proofs.Response.Normal
import Logbook.Proofs.Response.Outcome
import Logbook.Proofs.Response.Totals
import Logbook.Proofs.Response.Written
import Logbook.Proofs.Search.Body
import Logbook.Proofs.Search.HistogramBody
import Logbook.Proofs.Search.OfQuery
import Logbook.Proofs.Search.Pages
import Logbook.Proofs.Search.Refusal
import Logbook.Proofs.Text.Blank
import Logbook.Proofs.Text.Bytes
import Logbook.Proofs.Text.Composition
import Logbook.Proofs.Text.Lowercase
import Logbook.Proofs.Text.Runs
import Logbook.Proofs.Text.Scanner
import Logbook.Proofs.Text.Split
import Logbook.Proofs.Toml.Document
import Logbook.Proofs.Toml.Text
import Logbook.Proofs.Toml.Value
import Logbook.Proofs.Url.Authority
import Logbook.Proofs.Url.Domain
import Logbook.Proofs.Url.Parts
import Logbook.Proofs.Url.Path
import Logbook.Proofs.Url.Percent
import Logbook.Proofs.Url.Reference
import Logbook.Query.Basic
import Logbook.Query.Json
import Logbook.Query.Series
import Logbook.Report.Basic
import Logbook.Response.Basic
import Logbook.Response.Series
import Logbook.Search.Basic
import Logbook.Search.Body
import Logbook.Search.Json
import Logbook.Search.OfQuery
import Logbook.Text.Base64
import Logbook.Text.Blank
import Logbook.Text.Combining
import Logbook.Text.Composition
import Logbook.Text.Direction
import Logbook.Text.Joining
import Logbook.Text.Lowercase
import Logbook.Text.Printable
import Logbook.Text.Quoted
import Logbook.Text.Runs
import Logbook.Text.Scanner
import Logbook.Text.Split
import Logbook.Toml.Basic
import Logbook.Toml.Number
import Logbook.Toml.Parser
import Logbook.Toml.Text
import Logbook.Url.Address
import Logbook.Url.Basic
import Logbook.Url.Domain
import Logbook.Url.Label
import Logbook.Url.NameTable
import Logbook.Url.Parser
import Logbook.Url.Percent
import Logbook.Url.Punycode
