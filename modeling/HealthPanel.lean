import HealthPanel.CommandLine
import HealthPanel.Config.Basic
import HealthPanel.Config.File
import HealthPanel.Config.Format
import HealthPanel.Config.Format.Json
import HealthPanel.Config.Format.Yaml
import HealthPanel.Config.Mismatch
import HealthPanel.Decimal.Layout
import HealthPanel.Decimal.Shortest
import HealthPanel.Health.Failure
import HealthPanel.Health.Payload
import HealthPanel.Health.Probe
import HealthPanel.Health.Status
import HealthPanel.Http.Body
import HealthPanel.Http.Head
import HealthPanel.Http.Incoming
import HealthPanel.Http.Network
import HealthPanel.Http.Redirect
import HealthPanel.Http.Request
import HealthPanel.Http.Response
import HealthPanel.Http.StatusCode
import HealthPanel.Json.Fault
import HealthPanel.Json.Lexeme
import HealthPanel.Json.Number
import HealthPanel.Json.Reader
import HealthPanel.Json.Skip
import HealthPanel.Json.Value
import HealthPanel.Json.Writer
import HealthPanel.Log.Filter
import HealthPanel.Log.Level
import HealthPanel.Log.Line
import HealthPanel.Main
import HealthPanel.Metrics
import HealthPanel.Metrics.Registry
import HealthPanel.Panel.Basic
import HealthPanel.Panel.Signal
import HealthPanel.Program.Basic
import HealthPanel.Program.Session
import HealthPanel.Program.Start
import HealthPanel.Report
import HealthPanel.Text.Alphanumeric
import HealthPanel.Text.Base64
import HealthPanel.Text.Blank
import HealthPanel.Text.CodePointSet
import HealthPanel.Text.Hexadecimal
import HealthPanel.Text.Numeral
import HealthPanel.Text.Quoted
import HealthPanel.Text.Unprintable
import HealthPanel.Text.Utf8
import HealthPanel.Time.Date
import HealthPanel.Time.Instant
import HealthPanel.Time.Span
import HealthPanel.Url.Basic
import HealthPanel.Url.Domain.Ascii
import HealthPanel.Url.Domain.Characters
import HealthPanel.Url.Domain.Compositions
import HealthPanel.Url.Domain.Directions
import HealthPanel.Url.Domain.Joining
import HealthPanel.Url.Domain.Label
import HealthPanel.Url.Domain.Normal
import HealthPanel.Url.Fault
import HealthPanel.Url.Host
import HealthPanel.Url.Ipv4
import HealthPanel.Url.Ipv6
import HealthPanel.Url.Join
import HealthPanel.Url.Parser
import HealthPanel.Url.Percent
import HealthPanel.Url.Punycode
import HealthPanel.Yaml.Cursor
import HealthPanel.Yaml.Meaning
import HealthPanel.Yaml.Node
import HealthPanel.Yaml.Scalar
import HealthPanel.Yaml.Tag
import HealthPanel.Yaml.Token
import HealthPanel.Proofs.Panel.Transition
import HealthPanel.Proofs.Panel.Teardown
import HealthPanel.Proofs.Metrics
import HealthPanel.Proofs.Lookup
import HealthPanel.Proofs.Text.Lines
import HealthPanel.Proofs.Metrics.Calls
import HealthPanel.Proofs.Http.Persistence
import HealthPanel.Proofs.Panel.Accounting
import HealthPanel.Proofs.Health.Verdict
import HealthPanel.Proofs.Health.Visits
import HealthPanel.Proofs.Health.Classification
import HealthPanel.Proofs.SingleRequest
import HealthPanel.Proofs.Panel.Applications
import HealthPanel.Proofs.Config.Layers
import HealthPanel.Proofs.Config.Drafts
import HealthPanel.Proofs.Program.Layering
import HealthPanel.Proofs.Url.Domain.Plain
import HealthPanel.Proofs.Text.Utf8
import HealthPanel.Proofs.Url.Domain.Ending
import HealthPanel.Proofs.Url.Host
import HealthPanel.Proofs.Config.Validity
import HealthPanel.Proofs.Url.Authority
import HealthPanel.Proofs.Url.Resource
import HealthPanel.Proofs.Config.Derived
import HealthPanel.Proofs.Config.Sections
import HealthPanel.Proofs.Config.Spelling
import HealthPanel.Proofs.Json.Text
import HealthPanel.Proofs.Json.Natural
import HealthPanel.Proofs.Config.Spelling.Json
import HealthPanel.Proofs.Config.Spelling.Yaml
import HealthPanel.Proofs.Yaml.Layout
import HealthPanel.Proofs.Yaml.ScalarsOnLine
import HealthPanel.Proofs.Yaml.Scanning
import HealthPanel.Proofs.Yaml.Nodes
import HealthPanel.Proofs.Config.Loading
import HealthPanel.Proofs.Program.Course
import HealthPanel.Proofs.Program.Ending
import HealthPanel.Proofs.Program.ExitCode
import HealthPanel.Proofs.Program.Exposition
import HealthPanel.Proofs.Metrics.Exposition
import HealthPanel.Proofs.Program.Masking
import HealthPanel.Proofs.Program.Disclosure
import HealthPanel.Proofs.Json.Grammar
import HealthPanel.Proofs.Json.Numeral
import HealthPanel.Proofs.Json.Blanks
import HealthPanel.Proofs.Json.Contents
import HealthPanel.Proofs.Json.Members
import HealthPanel.Proofs.Json.Containers
import HealthPanel.Proofs.Json.Acceptance
import HealthPanel.Proofs.Health.Decoding
import HealthPanel.Proofs.Json.Writing
import HealthPanel.Proofs.Health.RoundTrip
import HealthPanel.Proofs.Config.Agreement
import HealthPanel.Proofs.Panel.Closing
import HealthPanel.Proofs.Panel.Dropping
import HealthPanel.Proofs.Json.Cut
import HealthPanel.Proofs.Http.Bodies
import HealthPanel.Proofs.Http.Heads
import HealthPanel.Proofs.Health.Delivery
import HealthPanel.Proofs.Health.Bodies
import HealthPanel.Proofs.Health.Expiry
import HealthPanel.Proofs.Panel.Cancellation
import HealthPanel.Proofs.Health.Accessors
import HealthPanel.Proofs.Url.Path
import HealthPanel.Proofs.Config.Paths
import HealthPanel.Proofs.Report.Lines
import HealthPanel.Proofs.Json.Pretty
import HealthPanel.Proofs.Report.Document
import HealthPanel.Proofs.Config.Overriding
import HealthPanel.Proofs.Http.Redirects
import HealthPanel.Proofs.Health.Credentials
import HealthPanel.Proofs.Json.Tree
import HealthPanel.Proofs.Json.Skipping
import HealthPanel.Proofs.Config.Meaning
import HealthPanel.Proofs.Config.Arrangement
import HealthPanel.Proofs.Time.Calendar
import HealthPanel.Proofs.Time.Timestamp
import HealthPanel.Proofs.Report.CheckedAt
