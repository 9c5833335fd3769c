import RecordSelection.Client.Basic
import RecordSelection.Client.Credentials
import RecordSelection.Client.Exchange
import RecordSelection.Client.Fault
import RecordSelection.Client.Overlap
import RecordSelection.Client.Page
import RecordSelection.Client.Query
import RecordSelection.Client.Race
import RecordSelection.Client.Registry
import RecordSelection.Client.Session
import RecordSelection.Client.Traffic
import RecordSelection.Client.Transport
import RecordSelection.CommandLine.Arguments
import RecordSelection.CommandLine.Log
import RecordSelection.CommandLine.Run
import RecordSelection.CommandLine.Table
import RecordSelection.CommandLine.Usage
import RecordSelection.Dictionary
import RecordSelection.Files
import RecordSelection.Json.Basic
import RecordSelection.Json.Draft
import RecordSelection.Json.Fault
import RecordSelection.Json.Reading
import RecordSelection.Json.Render
import RecordSelection.Json.Scan
import RecordSelection.Main
import RecordSelection.Number.Binary64
import RecordSelection.Number.Digits
import RecordSelection.Number.Literal
import RecordSelection.Number.Shortest
import RecordSelection.Proofs.Client.Change
import RecordSelection.Proofs.Client.Holders
import RecordSelection.Proofs.Client.Requests
import RecordSelection.Proofs.Client.Run
import RecordSelection.Proofs.Dictionary
import RecordSelection.Proofs.Schema.Relations
import RecordSelection.Proofs.Selection.Chains
import RecordSelection.Proofs.Selection.Faithful
import RecordSelection.Proofs.Selection.FieldPath
import RecordSelection.Proofs.Selection.FieldPaths
import RecordSelection.Proofs.Selection.Listing
import RecordSelection.Proofs.Selection.Requested
import RecordSelection.Proofs.Selection.Tree
import RecordSelection.Proofs.Selection.Walk
import RecordSelection.Proofs.Shape.Checked
import RecordSelection.Proofs.Shape.Promised
import RecordSelection.Proofs.Shape.Recorded
import RecordSelection.Proofs.Text.Parts
import RecordSelection.Record.Catalogue
import RecordSelection.Record.Declaration
import RecordSelection.Record.Format
import RecordSelection.Record.TypeExpr
import RecordSelection.Record.TypeText
import RecordSelection.Schema.Basic
import RecordSelection.Schema.Document
import RecordSelection.Schema.Fault
import RecordSelection.Schema.RelationIndex
import RecordSelection.Selection.Basic
import RecordSelection.Selection.Document
import RecordSelection.Selection.Parameters
import RecordSelection.Selection.Walk
import RecordSelection.Shape.Basic
import RecordSelection.Shape.Derive
import RecordSelection.Shape.Render
import RecordSelection.Text.Alphanumeric
import RecordSelection.Text.Blank
import RecordSelection.Text.Casing
import RecordSelection.Text.Columns
import RecordSelection.Text.CombiningClass
import RecordSelection.Text.Composition
import RecordSelection.Text.Extending
import RecordSelection.Text.Joining
import RecordSelection.Text.Marks
import RecordSelection.Text.Normal
import RecordSelection.Text.Pictures
import RecordSelection.Text.Quoted
import RecordSelection.Text.Ranges
import RecordSelection.Text.SnakeCase
import RecordSelection.Text.Unprintable
import RecordSelection.Text.Width
import RecordSelection.Text.WritingDirection
import RecordSelection.Timestamp.Basic
import RecordSelection.Timestamp.Calendar
import RecordSelection.Timestamp.Relaxed
import RecordSelection.Timestamp.Rfc3339
import RecordSelection.Timestamp.Written
import RecordSelection.Url.Basic
import RecordSelection.Url.Fault
import RecordSelection.Url.Form
import RecordSelection.Url.Host
import RecordSelection.Url.Name
import RecordSelection.Url.NameTable
import RecordSelection.Url.Path
import RecordSelection.Url.Percent
import RecordSelection.Url.Punycode
import RecordSelection.Url.Read
import RecordSelection.Proofs.Client.Outcome
import RecordSelection.Proofs.Client.Apart
import RecordSelection.Proofs.Client.Cancellation
import RecordSelection.Proofs.Client.Remaining
import RecordSelection.Proofs.Client.Calls
import RecordSelection.Proofs.Client.Overtaken
import RecordSelection.Proofs.Client.Scheduled
import RecordSelection.Proofs.Client.AllRecords
import RecordSelection.Proofs.Url.Percent
import RecordSelection.Proofs.Url.Target
import RecordSelection.Proofs.Url.Form
import RecordSelection.Proofs.Url.Path
import RecordSelection.Proofs.Client.Addresses
import RecordSelection.Proofs.Json.Scanned
import RecordSelection.Proofs.Json.Fields
import RecordSelection.Proofs.Selection.Document
import RecordSelection.Proofs.Selection.Scan
import RecordSelection.Proofs.Client.Awaited
import RecordSelection.Proofs.Schema.Index
import RecordSelection.Proofs.Shape.Refused
import RecordSelection.Proofs.Number.Digits
import RecordSelection.Proofs.Timestamp.Calendar
import RecordSelection.Proofs.Timestamp.Forms
import RecordSelection.Proofs.Timestamp.Instant
import RecordSelection.Proofs.Timestamp.Readers
import RecordSelection.Proofs.Timestamp.Written
import RecordSelection.Proofs.Shape.Rendered
import RecordSelection.Proofs.Selection.Leaves
import RecordSelection.Proofs.Client.Paging
import RecordSelection.Proofs.Json.Records
import RecordSelection.Proofs.Client.Answers
import RecordSelection.Proofs.Record.Derived
import RecordSelection.Proofs.Schema.Directions
import RecordSelection.Proofs.Record.Wrappers
import RecordSelection.Proofs.Selection.Bases
import RecordSelection.Proofs.Client.Credentials
import RecordSelection.Proofs.Client.Registry
import RecordSelection.Proofs.Client.Queries
