import BucketAccess.Answer
import BucketAccess.Authorization
import BucketAccess.Calendar.Date
import BucketAccess.Calendar.Moment
import BucketAccess.Calendar.Reader
import BucketAccess.Capability
import BucketAccess.Checked
import BucketAccess.Command.Basic
import BucketAccess.Command.Line
import BucketAccess.Command.Option
import BucketAccess.Command.Report
import BucketAccess.Command.Task
import BucketAccess.Console.Basic
import BucketAccess.Console.Color
import BucketAccess.Console.Emoji
import BucketAccess.Console.Layout
import BucketAccess.Console.Literal
import BucketAccess.Console.Markup
import BucketAccess.Console.Style
import BucketAccess.Console.Table
import BucketAccess.Decimal.Binary
import BucketAccess.Decimal.Layout
import BucketAccess.Decimal.Reader
import BucketAccess.Decimal.Shortest
import BucketAccess.Download.CacheControl
import BucketAccess.Download.ContentEncoding
import BucketAccess.Download.Disposition
import BucketAccess.Download.Draft
import BucketAccess.Download.MediaType
import BucketAccess.Download.Request
import BucketAccess.Duration
import BucketAccess.Fault
import BucketAccess.Hostname.Label
import BucketAccess.Hostname.Name
import BucketAccess.Hostname.Numeric
import BucketAccess.Hostname.Permitted
import BucketAccess.Hostname.Punycode
import BucketAccess.Http.Client
import BucketAccess.Http.Exchange
import BucketAccess.Http.Percent
import BucketAccess.Http.Status
import BucketAccess.Http.Url
import BucketAccess.Json.Bytes
import BucketAccess.Json.Decoding
import BucketAccess.Json.Display
import BucketAccess.Json.Held
import BucketAccess.Json.Reader
import BucketAccess.Json.Value
import BucketAccess.Key.Basic
import BucketAccess.Key.Draft
import BucketAccess.Key.Request
import BucketAccess.Main
import BucketAccess.Operation
import BucketAccess.Problem
import BucketAccess.Secret
import BucketAccess.Session
import BucketAccess.Settings
import BucketAccess.Span
import BucketAccess.StandIn
import BucketAccess.Text.Alphanumeric
import BucketAccess.Text.Base64
import BucketAccess.Text.Blank
import BucketAccess.Text.DecimalDigit
import BucketAccess.Text.Loose
import BucketAccess.Text.Numeral
import BucketAccess.Text.Printable
import BucketAccess.Text.Quoted
import BucketAccess.Text.Ranges
import BucketAccess.Text.Token
import BucketAccess.Text.Utf8
import BucketAccess.Text.Wide
import BucketAccess.Unicode.CombiningClass
import BucketAccess.Unicode.Composite
import BucketAccess.Unicode.Composition
import BucketAccess.Unicode.Direction
import BucketAccess.Unicode.Joining
import BucketAccess.Unicode.Lowercase
import BucketAccess.Unicode.Mark
import BucketAccess.Unicode.Script
import BucketAccess.Unicode.Width
import BucketAccess.Violation
import BucketAccess.Proofs.Answer
import BucketAccess.Proofs.Outcome
import BucketAccess.Proofs.Authorization
import BucketAccess.Proofs.Download.Disposition
import BucketAccess.Proofs.Download.Request
import BucketAccess.Proofs.Download.WrittenDisposition
import BucketAccess.Proofs.Http.Client
import BucketAccess.Proofs.Json.Decoding
import BucketAccess.Proofs.Json.Fields
import BucketAccess.Proofs.Json.Integer
import BucketAccess.Proofs.Key.Draft
import BucketAccess.Proofs.Key.Request
import BucketAccess.Proofs.Operation.Failure
import BucketAccess.Proofs.StandIn.Ledger
import BucketAccess.Proofs.StandIn.Session
import BucketAccess.Proofs.StandIn.Store
import BucketAccess.Proofs.Text.Base64
import BucketAccess.Proofs.Text.Numeral
import BucketAccess.Proofs.Text.Run
import BucketAccess.Proofs.Console.Plain
import BucketAccess.Proofs.Console.Shown
import BucketAccess.Proofs.Duration
import BucketAccess.Proofs.Session.Course
import BucketAccess.Proofs.Session.Request
import BucketAccess.Proofs.Download.Draft
import BucketAccess.Proofs.Command.Options
import BucketAccess.Proofs.Command.Line
import BucketAccess.Proofs.Command.Traffic
import BucketAccess.Proofs.Command.OneTimeValue
import BucketAccess.Proofs.Json.Table
import BucketAccess.Proofs.Key.Body
import BucketAccess.Proofs.Download.Body
import BucketAccess.Proofs.Body
import BucketAccess.Proofs.Drafting
import BucketAccess.Proofs.Key.Setting
import BucketAccess.Proofs.Download.Setting
import BucketAccess.Proofs.Setting
import BucketAccess.Proofs.Download.Drafted
import BucketAccess.Proofs.Json.Reader
import BucketAccess.Proofs.Operation.Response
import BucketAccess.Proofs.Download.Attachment
import BucketAccess.Proofs.Download.WrittenMediaType
import BucketAccess.Proofs.Download.LineBreak
import BucketAccess.Proofs.Key.Building
import BucketAccess.Proofs.Key.Held
import BucketAccess.Proofs.Http.Alike
import BucketAccess.Proofs.Session.Secrecy
import BucketAccess.Proofs.Command.Rekeyed
import BucketAccess.Proofs.Command.Secrecy
import BucketAccess.Proofs.Key.Split
import BucketAccess.Proofs.Json.Edit
import BucketAccess.Proofs.UnknownField
import BucketAccess.Proofs.Calendar.Day
import BucketAccess.Proofs.Calendar.HttpDate
import BucketAccess.Proofs.Download.Expiration
import BucketAccess.Proofs.Text.Utf8
import BucketAccess.Proofs.StandIn.Login
import BucketAccess.Proofs.Download.MediaType
import BucketAccess.Proofs.Text.Split
import BucketAccess.Proofs.Download.CacheControl
import BucketAccess.Proofs.Calendar.Instant
import BucketAccess.Proofs.Key.Expiration
import BucketAccess.Proofs.Command.Integer
import BucketAccess.Proofs.Command.TimeOption
