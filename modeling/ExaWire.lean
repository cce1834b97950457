import ExaWire.Connection
import ExaWire.Failure.Name
import ExaWire.Record
import ExaWire.Script.Channeling
import ExaWire.Script.Disclosure
import ExaWire.Script.Loading
import ExaWire.Script.Named
import ExaWire.Script.Play
import ExaWire.Script.Relay
import ExaWire.Value.Entries
import ExaWire.Proofs.Action
import ExaWire.Proofs.Session.Trace
import ExaWire.Proofs.Session.Exchange
import ExaWire.Proofs.Session.Path
import ExaWire.Proofs.Script.Course
import ExaWire.Proofs.Session.Closing
import ExaWire.Proofs.Script.InStep
import ExaWire.Proofs.Session.Farewell
import ExaWire.Proofs.Session.Retirement
import ExaWire.Proofs.Script.Retired
import ExaWire.Proofs.Import.Chunked
import ExaWire.Proofs.Import.Lines
import ExaWire.Proofs.Import.Upload
import ExaWire.Proofs.Session.Answered
import ExaWire.Proofs.Cursor.Reading
import ExaWire.Proofs.Cursor.Fetching
import ExaWire.Proofs.Script.Delivered
import ExaWire.Proofs.Session.Reported
import ExaWire.Proofs.Session.Beginning
import ExaWire.Proofs.Script.Undone
import ExaWire.Proofs.Session.Tried
import ExaWire.Proofs.Statement.Once
import ExaWire.Proofs.Cursor.Placed
import ExaWire.Proofs.Parallel
import ExaWire.Proofs.Session.Twins
import ExaWire.Proofs.Session.Compressed
import ExaWire.Proofs.Session.Together
import ExaWire.Proofs.Script.Compressed
import ExaWire.Proofs.Number.Reading
import ExaWire.Proofs.Text.Cut
import ExaWire.Proofs.ConnectionString.Items
import ExaWire.Proofs.ConnectionString.RoundTrip
import ExaWire.Proofs.ConnectionString.Grammar
import ExaWire.Proofs.Hosts
import ExaWire.Proofs.Reply.Misfit
import ExaWire.Proofs.Session.Accounted
import ExaWire.Proofs.Connection.Accounted
import ExaWire.Proofs.Scope
import ExaWire.Proofs.Scope.Answers
import ExaWire.Proofs.Script.Named
import ExaWire.Proofs.Import.Race
import ExaWire.Proofs.Import.Raced
import ExaWire.Proofs.Session.Caller
import ExaWire.Proofs.Session.Crowd
import ExaWire.Proofs.Connect.Search
import ExaWire.Proofs.Connect.Pinning
import ExaWire.Proofs.Import.Released
import ExaWire.Proofs.Session.Credentials
import ExaWire.Proofs.Import.BrokenOff
import ExaWire.Proofs.Session.Outcome
import ExaWire.Proofs.Transaction
import ExaWire.Proofs.Script.Holding
import ExaWire.Proofs.Script.Finished
import ExaWire.Proofs.Released
import ExaWire.Proofs.Script.Reused
import ExaWire.Proofs.Import.Split
import ExaWire.Proofs.Parameter.Transposed
import ExaWire.Proofs.Import.Redirected
import ExaWire.Proofs.Import.LeftOut
import ExaWire.Proofs.Import.Negotiated
import ExaWire.Proofs.Parameter.Double
import ExaWire.Proofs.Session.Lossless
import ExaWire.Proofs.Script.Echoed
import ExaWire.Proofs.Parameter.Temporal
