import SchoolNotice.Text.Blank
import SchoolNotice.Text.CodeRange
import SchoolNotice.Text.Cut
import SchoolNotice.Text.Direction
import SchoolNotice.Text.Escaped
import SchoolNotice.Text.Hex
import SchoolNotice.Text.Hidden
import SchoolNotice.Text.Joining
import SchoolNotice.Text.KeyCase
import SchoolNotice.Text.Letter
import SchoolNotice.Text.Mark
import SchoolNotice.Text.Punycode
import SchoolNotice.Text.Quoted
import SchoolNotice.Text.Spelling
import SchoolNotice.Text.Utf8
import SchoolNotice.Number.Binary64
import SchoolNotice.Number.Natural
import SchoolNotice.Number.Numeral
import SchoolNotice.Number.Shortest
import SchoolNotice.Json.Basic
import SchoolNotice.Json.Compact
import SchoolNotice.Json.Keys
import SchoolNotice.Json.Path
import SchoolNotice.Json.Reader
import SchoolNotice.Json.Written
import SchoolNotice.Tenant.Profile
import SchoolNotice.Tenant.Uuid
import SchoolNotice.Context
import SchoolNotice.Theme
import SchoolNotice.Layout
import SchoolNotice.Template.Cursor
import SchoolNotice.Template.Image
import SchoolNotice.Template.Node
import SchoolNotice.Template.Pairing
import SchoolNotice.Template.Printer
import SchoolNotice.Template.Render
import SchoolNotice.Template.Scan
import SchoolNotice.Template.Tag
import SchoolNotice.Template.Token
import SchoolNotice.Notice.Builtin
import SchoolNotice.Notice.Email
import SchoolNotice.Notice.Kind
import SchoolNotice.Notice.Selection
import SchoolNotice.Notice.Stored
import SchoolNotice.Delivery.Dispatcher
import SchoolNotice.Delivery.Event
import SchoolNotice.Delivery.Fault
import SchoolNotice.Delivery.Flight
import SchoolNotice.Delivery.Office
import SchoolNotice.Delivery.Run
import SchoolNotice.Delivery.Services
import SchoolNotice.Database.Pool
import SchoolNotice.Database.Row
import SchoolNotice.Database.Server
import SchoolNotice.Mail.Domain
import SchoolNotice.Mail.Mailbox
import SchoolNotice.Mail.Ses
import SchoolNotice.Mail.Smtp
import SchoolNotice.Mail.Word
import SchoolNotice.Settings
import SchoolNotice.Worker.Desk
import SchoolNotice.Worker.Job
import SchoolNotice.Worker.Worker
import SchoolNotice.Main
import SchoolNotice.Proofs.Number.Natural
import SchoolNotice.Proofs.Text.Blank
import SchoolNotice.Proofs.Text.Cut
import SchoolNotice.Proofs.Template.Tag
import SchoolNotice.Proofs.Template.Lexing
import SchoolNotice.Proofs.Template.Cursor
import SchoolNotice.Proofs.Template.Blocks
import SchoolNotice.Proofs.Template.Filling
import SchoolNotice.Proofs.Template.Images
import SchoolNotice.Proofs.Template.Slots
import SchoolNotice.Proofs.Template.Places
import SchoolNotice.Proofs.Template.Attributes
import SchoolNotice.Proofs.Template.Candidates
import SchoolNotice.Proofs.Template.Literal
import SchoolNotice.Proofs.Template.Fallback
import SchoolNotice.Proofs.Template.Printed
import SchoolNotice.Proofs.Template.Guards
import SchoolNotice.Proofs.Delivery.Growth
import SchoolNotice.Proofs.Delivery.Advance
import SchoolNotice.Proofs.Delivery.Events
import SchoolNotice.Proofs.Delivery.Accounts
import SchoolNotice.Proofs.Delivery.Completion
import SchoolNotice.Proofs.Delivery.Outcomes
import SchoolNotice.Proofs.Delivery.OneByOne
import SchoolNotice.Proofs.Delivery.Interleaving
import SchoolNotice.Proofs.Delivery.Books
import SchoolNotice.Proofs.Delivery.Cabinet
import SchoolNotice.Proofs.Delivery.Parallel
import SchoolNotice.Proofs.Delivery.Tenancy
import SchoolNotice.Proofs.Delivery.Cancelled
import SchoolNotice.Proofs.Delivery.Steady
import SchoolNotice.Proofs.Delivery.Course
import SchoolNotice.Proofs.Delivery.Isolation
import SchoolNotice.Proofs.Delivery.Ledger
import SchoolNotice.Proofs.Delivery.Watch
import SchoolNotice.Proofs.Delivery.Balance
import SchoolNotice.Proofs.Delivery.Accounting
import SchoolNotice.Proofs.Delivery.Preview
import SchoolNotice.Proofs.Delivery.Wavering
import SchoolNotice.Proofs.Delivery.LogFaults
import SchoolNotice.Proofs.Delivery.Directory
import SchoolNotice.Proofs.Delivery.Lookups
import SchoolNotice.Proofs.Delivery.Degrading
import SchoolNotice.Proofs.Text.LetterCase
import SchoolNotice.Proofs.Text.KeyCase
import SchoolNotice.Proofs.Text.KeyInverse
import SchoolNotice.Proofs.Context.Folding
import SchoolNotice.Proofs.Context.Reachable
import SchoolNotice.Proofs.Context.Respelling
import SchoolNotice.Proofs.Text.Enclosed
import SchoolNotice.Proofs.Layout.Markup
import SchoolNotice.Proofs.Database.Sessions
import SchoolNotice.Proofs.Notice.Selection
import SchoolNotice.Proofs.Text.ByteOrder
import SchoolNotice.Proofs.Context.Collisions
import SchoolNotice.Proofs.Context.Walking
import SchoolNotice.Proofs.Text.KeyWord
import SchoolNotice.Proofs.Context.EitherSpelling
import SchoolNotice.Proofs.Context.Building
import SchoolNotice.Proofs.Context.Enrichment
import SchoolNotice.Proofs.Context.Branding
import SchoolNotice.Proofs.Json.Texts
import SchoolNotice.Proofs.Template.Braces
import SchoolNotice.Proofs.Notice.Builtins
import SchoolNotice.Proofs.Database.Decoding
import SchoolNotice.Proofs.Delivery.Business
import SchoolNotice.Proofs.Delivery.Overtaking
import SchoolNotice.Proofs.Delivery.Tally
import SchoolNotice.Proofs.Settings.Variables
import SchoolNotice.Proofs.Settings.Loading
