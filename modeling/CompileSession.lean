import CompileSession.Client
import CompileSession.Command.Help
import CompileSession.Command.Invocation
import CompileSession.Command.Line
import CompileSession.Command.Usage
import CompileSession.Config
import CompileSession.Diagnostic
import CompileSession.Domain.Composition
import CompileSession.Domain.Direction
import CompileSession.Domain.Excluded
import CompileSession.Domain.Joining
import CompileSession.Domain.Label
import CompileSession.Domain.Mark
import CompileSession.Domain.Name
import CompileSession.Domain.Punycode
import CompileSession.Domain.Replacement
import CompileSession.FileTree.Basic
import CompileSession.FileTree.Databases
import CompileSession.FileTree.Programs
import CompileSession.Json.Fault
import CompileSession.Json.Pass
import CompileSession.Json.Reader
import CompileSession.Json.Record
import CompileSession.Json.Scan
import CompileSession.Json.Value
import CompileSession.Json.Writer
import CompileSession.Log
import CompileSession.Main
import CompileSession.Number.Binary64
import CompileSession.Number.Shortest
import CompileSession.Overlay
import CompileSession.Pane
import CompileSession.Report
import CompileSession.Request.Basic
import CompileSession.Request.Body
import CompileSession.Response.Decode
import CompileSession.Response.Outcome
import CompileSession.Response.Wire
import CompileSession.Script
import CompileSession.Service.Exchange
import CompileSession.Service.Host
import CompileSession.Service.Url
import CompileSession.Session.Basic
import CompileSession.Session.Delivery
import CompileSession.Session.Desk
import CompileSession.Span
import CompileSession.Store.Backend
import CompileSession.Store.Connection
import CompileSession.Store.Database
import CompileSession.Store.Document
import CompileSession.Store.Entries
import CompileSession.Store.Front
import CompileSession.Store.KeyValue
import CompileSession.Store.Memory
import CompileSession.Store.Name
import CompileSession.Store.Saved
import CompileSession.Text.Blank
import CompileSession.Text.Decimal
import CompileSession.Text.Hexadecimal
import CompileSession.Text.Lines
import CompileSession.Text.Octets
import CompileSession.Text.Percent
import CompileSession.Text.Pieces
import CompileSession.Text.Quoted
import CompileSession.Text.Rows
import CompileSession.Text.Unseen
import CompileSession.Warning
import CompileSession.Proofs.Session.History
import CompileSession.Proofs.Session.Stale
import CompileSession.Proofs.Session.Gate
import CompileSession.Proofs.Session.Artifact
import CompileSession.Proofs.Session.Editing
import CompileSession.Proofs.Markers
import CompileSession.Proofs.Session.View
import CompileSession.Proofs.Json.Records
import CompileSession.Proofs.Store.Kept
import CompileSession.Proofs.FileTree.Written
import CompileSession.Proofs.Command.Submission
import CompileSession.Proofs.Command.Shared
import CompileSession.Proofs.Command.Words
import CompileSession.Proofs.Command.CarryOver
import CompileSession.Proofs.Session.Dispatch
import CompileSession.Proofs.SharedPane
import CompileSession.Proofs.Text.Whole
import CompileSession.Proofs.Response.Grammar
import CompileSession.Proofs.Json.Grammar
import CompileSession.Proofs.Except
import CompileSession.Proofs.Json.Words
import CompileSession.Proofs.Json.Numerals
import CompileSession.Proofs.Json.Settled
import CompileSession.Proofs.Json.Reading
import CompileSession.Proofs.Json.WellFormed
import CompileSession.Proofs.Response.Spelling
import CompileSession.Proofs.Session.Storage
import CompileSession.Proofs.Client
import CompileSession.Proofs.Service.Exchange
import CompileSession.Proofs.Service.Posting
import CompileSession.Proofs.Command.ExitCode
import CompileSession.Proofs.Request.Bodies
import CompileSession.Proofs.Json.Loose
import CompileSession.Proofs.Json.Passing
import CompileSession.Proofs.Json.Fields
import CompileSession.Proofs.Json.RecordTexts
import CompileSession.Proofs.Response.Diagnostics
import CompileSession.Proofs.Drawing
import CompileSession.Proofs.Store.Loading
import CompileSession.Proofs.Store.Saving
import CompileSession.Proofs.Store.Mirroring
import CompileSession.Proofs.Report.Rows
import CompileSession.Proofs.Report.Carets
import CompileSession.Proofs.Text.Lines
import CompileSession.Proofs.Report.Layout
import CompileSession.Proofs.Report.Positions
import CompileSession.Proofs.LineBreaks
