import DevicePower.Api.Arguments
import DevicePower.Api.LockCall
import DevicePower.Api.PowerCall
import DevicePower.Caller
import DevicePower.Config.Files
import DevicePower.Config.Load
import DevicePower.Config.Schema
import DevicePower.Config.Settings
import DevicePower.Config.Validation
import DevicePower.Decimal.Binary64
import DevicePower.Decimal.Literal
import DevicePower.Decimal.Shortest
import DevicePower.Device
import DevicePower.Digest.Sha256
import DevicePower.Error
import DevicePower.Exit
import DevicePower.Facade
import DevicePower.Host
import DevicePower.Json.Decoder
import DevicePower.Json.Printer
import DevicePower.Json.Reader
import DevicePower.Json.Skip
import DevicePower.Json.Token
import DevicePower.Json.Value
import DevicePower.Lock.Hold
import DevicePower.Lock.Kind
import DevicePower.Lock.Registry
import DevicePower.Lock.Timer
import DevicePower.Log.Console
import DevicePower.Log.Directive
import DevicePower.Log.Filter
import DevicePower.Log.Level
import DevicePower.Log.Pattern
import DevicePower.Log.Pattern.Atom
import DevicePower.Log.Pattern.Basic
import DevicePower.Log.Pattern.Bracket
import DevicePower.Log.Record
import DevicePower.Log.Settings
import DevicePower.Log.Span
import DevicePower.Main
import DevicePower.Name
import DevicePower.Notice.CloseEvent
import DevicePower.Notice.Command
import DevicePower.Notice.Parcel
import DevicePower.Notice.Presenter
import DevicePower.Notice.Service
import DevicePower.Notice.Session
import DevicePower.Pending
import DevicePower.Platform
import DevicePower.Power.Control
import DevicePower.Power.Mode
import DevicePower.Proofs.Lock.Operation
import DevicePower.Proofs.Lock.Scene
import DevicePower.Shell.Command
import DevicePower.Shell.Grammar
import DevicePower.Shell.Output
import DevicePower.Shell.Perform
import DevicePower.Text.Alphanumeric
import DevicePower.Text.Blank
import DevicePower.Text.Hexadecimal
import DevicePower.Text.Instant
import DevicePower.Text.Lowercase
import DevicePower.Text.Numeral
import DevicePower.Text.Quoted
import DevicePower.Text.Slice
import DevicePower.Text.Unprintable
import DevicePower.Text.Utf8
import DevicePower.Proofs.Lock.Lookup
import DevicePower.Proofs.Lock.Step
import DevicePower.Proofs.Lock.Turn
import DevicePower.Proofs.Lock.Account
import DevicePower.Proofs.Lock.Coherent
import DevicePower.Proofs.Lock.Discipline
import DevicePower.Proofs.Lock.Leak
import DevicePower.Proofs.Lock.Refusal
import DevicePower.Proofs.Lock.Alarm
import DevicePower.Proofs.Lock.Clock
import DevicePower.Proofs.Lock.Seen
import DevicePower.Proofs.Notice.Wire
import DevicePower.Proofs.Caller
import DevicePower.Proofs.Notice.Calls
import DevicePower.Proofs.Notice.Handling
import DevicePower.Proofs.Notice.Scene
import DevicePower.Proofs.Notice.Answer
import DevicePower.Proofs.Notice.Ledger
import DevicePower.Proofs.Notice.Ended
import DevicePower.Proofs.Notice.Published
import DevicePower.Proofs.Notice.Independence
import DevicePower.Proofs.Notice.Traffic
import DevicePower.Proofs.Notice.Locks
import DevicePower.Proofs.Notice.Trace
import DevicePower.Proofs.Notice.Alone
import DevicePower.Proofs.Notice.Teardown
import DevicePower.Proofs.Notice.Meeting
import DevicePower.Proofs.Notice.Fields
import DevicePower.Proofs.Notice.Usable
import DevicePower.Proofs.Api.Asked
import DevicePower.Proofs.Api.Followed
import DevicePower.Proofs.Json.Grammar
import DevicePower.Proofs.Json.Number
import DevicePower.Proofs.Json.Skip
import DevicePower.Proofs.Json.Edited
import DevicePower.Proofs.Json.Record
import DevicePower.Proofs.Config.Edited
import DevicePower.Proofs.Notice.Shown
import DevicePower.Proofs.Lock.Roster
import DevicePower.Proofs.Json.OneLine
import DevicePower.Proofs.Config.Loading
import DevicePower.Proofs.Shell.Outcome
import DevicePower.Proofs.Shell.Variable
import DevicePower.Proofs.Notice.Dismissal
import DevicePower.Proofs.Notice.Decoding
import DevicePower.Proofs.Lock.Views
import DevicePower.Proofs.Notice.Overlong
import DevicePower.Proofs.Api.Older
import DevicePower.Proofs.Config.Provenance
import DevicePower.Proofs.Pending
import DevicePower.Proofs.Decimal.Nearest
import DevicePower.Proofs.Json.Members
import DevicePower.Proofs.Json.Double
import DevicePower.Proofs.Json.Meaning
import DevicePower.Proofs.Json.Reading
import DevicePower.Proofs.Log.Fields
import DevicePower.Proofs.Log.Scope
import DevicePower.Proofs.Log.Line
import DevicePower.Proofs.Api.Exact
import DevicePower.Proofs.Text.Spelling
import DevicePower.Proofs.Notice.Connection
import DevicePower.Proofs.Report
import DevicePower.Proofs.Facade.Scene
import DevicePower.Proofs.Facade.Working
import DevicePower.Proofs.Facade.Routing
import DevicePower.Proofs.Notice.Makers
import DevicePower.Proofs.Text.Lettercase
import DevicePower.Proofs.Name
