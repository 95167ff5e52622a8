import TagAudit.Charset.Basic
import TagAudit.Charset.Chinese
import TagAudit.Charset.Escaped
import TagAudit.Charset.Japanese
import TagAudit.Charset.Korean
import TagAudit.Charset.Names
import TagAudit.Charset.Punycode
import TagAudit.Charset.Segments
import TagAudit.Charset.Switched
import TagAudit.Charset.Table.Chinese
import TagAudit.Charset.Table.Japanese
import TagAudit.Charset.Table.Korean
import TagAudit.Charset.Table.SingleByte
import TagAudit.Charset.Utf7
import TagAudit.Charset.Wide
import TagAudit.Command.Arguments
import TagAudit.Command.Basic
import TagAudit.Command.Outcome
import TagAudit.Command.Run
import TagAudit.Compression.Bits
import TagAudit.Compression.Code
import TagAudit.Compression.Inflate
import TagAudit.Config.Check
import TagAudit.Config.Layers
import TagAudit.Config.LogFormat
import TagAudit.Config.Settings
import TagAudit.Container.Condition
import TagAudit.Container.Decode
import TagAudit.Container.Document
import TagAudit.Container.Event
import TagAudit.Container.Identifier
import TagAudit.Container.Kind
import TagAudit.Container.Links
import TagAudit.Container.Name
import TagAudit.Container.Record
import TagAudit.Data.Basic
import TagAudit.Data.Display
import TagAudit.Fault
import TagAudit.Fetch.ContentCoding
import TagAudit.Fetch.ContentType
import TagAudit.Fetch.Exchange
import TagAudit.Fetch.HostLabel
import TagAudit.Fetch.HostLabelTable
import TagAudit.Fetch.HostName
import TagAudit.Fetch.Url
import TagAudit.Host.Basic
import TagAudit.Host.Machine
import TagAudit.Host.Moment
import TagAudit.Host.Path
import TagAudit.Inspection.Inspector
import TagAudit.Inspection.Report
import TagAudit.Issue.Basic
import TagAudit.Issue.Ledger
import TagAudit.Json.Printer
import TagAudit.Json.Reader
import TagAudit.Literal.Evaluation
import TagAudit.Literal.Normal
import TagAudit.Literal.Reader
import TagAudit.Main
import TagAudit.Number.Binary64
import TagAudit.Number.Integer
import TagAudit.Number.Power
import TagAudit.Pattern.Basic
import TagAudit.Pattern.Reader
import TagAudit.Proofs.Container.Decoding
import TagAudit.Proofs.Container.Isolation
import TagAudit.Proofs.Outcome
import TagAudit.Proofs.Source.Balanced
import TagAudit.Report.Diagnostics
import TagAudit.Report.Summary
import TagAudit.Source.Locate
import TagAudit.Source.Span
import TagAudit.Table.Basic
import TagAudit.Table.Files
import TagAudit.Table.Format
import TagAudit.Table.Memory
import TagAudit.Text.Ascii
import TagAudit.Text.Basic
import TagAudit.Text.CaseTable
import TagAudit.Text.Casing
import TagAudit.Text.Class
import TagAudit.Text.CodePoint
import TagAudit.Text.Composition
import TagAudit.Text.CompositionTable
import TagAudit.Text.Punycode
import TagAudit.Text.Quoted
import TagAudit.Text.Ranges
import TagAudit.Text.Utf8
import TagAudit.Vendor.Library
import TagAudit.Vendor.Scan
import TagAudit.Yaml.Cursor
import TagAudit.Yaml.Reader
import TagAudit.Yaml.Scalar
import TagAudit.Yaml.ScalarText
import TagAudit.Yaml.Token
import TagAudit.Yaml.Value
import TagAudit.Yaml.Writer
import TagAudit.Proofs.Container.Links
import TagAudit.Proofs.Literal.Gap
import TagAudit.Proofs.Literal.Number
import TagAudit.Proofs.Literal.Key
import TagAudit.Proofs.Literal.Nested
import TagAudit.Proofs.Literal.Reading
import TagAudit.Proofs.Data.Members
import TagAudit.Proofs.Container.Encoding
import TagAudit.Proofs.Container.Events
import TagAudit.Proofs.Container.Predicates
import TagAudit.Proofs.Literal.Stuck
import TagAudit.Proofs.Text.Runs
import TagAudit.Proofs.Pattern.Matching
import TagAudit.Proofs.Source.Sites
import TagAudit.Proofs.Json.Balanced
import TagAudit.Proofs.Source.Cascade
import TagAudit.Proofs.Source.Embedded
import TagAudit.Proofs.Json.Grammar
import TagAudit.Proofs.Json.Number
import TagAudit.Proofs.Json.Letters
import TagAudit.Proofs.Json.Reading
import TagAudit.Proofs.Literal.Strict
import TagAudit.Proofs.Literal.Pieces
import TagAudit.Proofs.Literal.Requoted
import TagAudit.Proofs.Literal.Normalized
import TagAudit.Proofs.Container.Locality
import TagAudit.Proofs.Container.Metadata
import TagAudit.Proofs.Data.Written
import TagAudit.Proofs.Inspection.Tables
import TagAudit.Proofs.Host.Files
import TagAudit.Proofs.Table.Files
import TagAudit.Proofs.Inspection.Stages
import TagAudit.Proofs.Container.Identifier
import TagAudit.Proofs.Inspection.Independence
import TagAudit.Proofs.Vendor.Scan
import TagAudit.Proofs.Inspection.Vendors
import TagAudit.Proofs.Vendor.Registration
import TagAudit.Proofs.Vendor.WholeTokens
import TagAudit.Proofs.Json.Printing
import TagAudit.Proofs.Container.RawColumn
import TagAudit.Proofs.Json.CodePoints
import TagAudit.Proofs.Table.Separated
import TagAudit.Proofs.Table.Agreement
import TagAudit.Proofs.Text.Utf8
import TagAudit.Proofs.Config.Checked
import TagAudit.Proofs.Config.Loading
import TagAudit.Proofs.Number.Numerals
import TagAudit.Proofs.Container.References
import TagAudit.Proofs.Container.Fields
import TagAudit.Proofs.Source.Placement
import TagAudit.Proofs.Yaml.CodePoints
import TagAudit.Proofs.Pattern.Replacing
import TagAudit.Proofs.Pattern.Ways
import TagAudit.Proofs.Pattern.Guards
import TagAudit.Proofs.Report.Rendering
import TagAudit.Proofs.Command.Printing
import TagAudit.Proofs.Command.ExitCodes
import TagAudit.Proofs.Source.Braces
import TagAudit.Proofs.Source.Candidates
import TagAudit.Proofs.Literal.Extent
import TagAudit.Proofs.Literal.Relaxed
import TagAudit.Proofs.Report.Grouping
import TagAudit.Proofs.Config.Precedence
import TagAudit.Proofs.Literal.Machine
import TagAudit.Proofs.Literal.Progress
import TagAudit.Proofs.Literal.Negation
