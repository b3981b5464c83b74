import Parley.Config.Basic
import Parley.Config.Document
import Parley.Config.EnvValue
import Parley.Config.Environment
import Parley.Config.Error
import Parley.Config.Files
import Parley.Config.Load
import Parley.Config.Path
import Parley.Config.Setting
import Parley.Controller.Basic
import Parley.Controller.Host
import Parley.Controller.Operations
import Parley.Decimal.Binary64
import Parley.Decimal.Scan
import Parley.Decimal.Shortest
import Parley.Decimal.Text
import Parley.Decimal.Whole
import Parley.Exchange.Error
import Parley.Exchange.Reply
import Parley.Exchange.Request
import Parley.Exchange.Script
import Parley.Exchange.Tracker
import Parley.Http.Basic
import Parley.Http.Message
import Parley.Http.Rehearsal
import Parley.Json.Fault
import Parley.Json.Mismatch
import Parley.Json.Numeral
import Parley.Json.Printer
import Parley.Json.Quoted
import Parley.Json.Reader
import Parley.Json.Skip
import Parley.Json.Value
import Parley.Log
import Parley.Main
import Parley.Markdown.Block
import Parley.Markdown.Cursor
import Parley.Markdown.Entity
import Parley.Markdown.Html
import Parley.Markdown.Inline
import Parley.Markdown.Options
import Parley.Markdown.Reference
import Parley.Markdown.Renderer
import Parley.Markdown.Source
import Parley.Markdown.Table
import Parley.Markdown.Tag
import Parley.Markdown.Token
import Parley.Page.Basic
import Parley.Page.Browser
import Parley.Page.Element
import Parley.Page.Error
import Parley.Page.Options
import Parley.Page.Reply
import Parley.Page.Thrown
import Parley.Page.Widget
import Parley.Session.Error
import Parley.Session.Id
import Parley.Session.Identity
import Parley.Session.Store
import Parley.Terminal.Client
import Parley.Terminal.Command
import Parley.Terminal.Error
import Parley.Terminal.Flags
import Parley.Terminal.Lines
import Parley.Terminal.Screen
import Parley.Text.Blank
import Parley.Text.Canonical
import Parley.Text.Fold
import Parley.Text.Hex
import Parley.Text.Pieces
import Parley.Text.Punctuation
import Parley.Text.Ranges
import Parley.Text.Runs
import Parley.Text.Shown
import Parley.Text.Utf8
import Parley.Transcript.Basic
import Parley.Transcript.Entry
import Parley.Transcript.Scroll
import Parley.Transcript.View
import Parley.Url.Basic
import Parley.Url.Domain
import Parley.Url.Domain.Direction
import Parley.Url.Domain.Joining
import Parley.Url.Domain.Mapping
import Parley.Url.Domain.Permitted
import Parley.Url.Error
import Parley.Url.Host
import Parley.Url.Ipv6
import Parley.Url.Parse
import Parley.Url.Percent
import Parley.Url.Punycode
import Parley.Proofs.Exchange.Tracker
import Parley.Proofs.Controller.Deed
import Parley.Proofs.Controller.Conversation
import Parley.Proofs.Runs
import Parley.Proofs.Host.Turn
import Parley.Proofs.Host.Run
import Parley.Proofs.Host.Accounts
import Parley.Proofs.Host.History
import Parley.Proofs.Session.Identity
import Parley.Proofs.Controller.Requests
import Parley.Proofs.Host.Requests
import Parley.Proofs.Host.Shared
import Parley.Proofs.Controller.Polling
import Parley.Proofs.Controller.Apart
import Parley.Proofs.Host.Heard
import Parley.Proofs.Host.Isolation
import Parley.Proofs.Host.Schedule
import Parley.Proofs.Host.Confluence
import Parley.Proofs.Config.Normalized
import Parley.Proofs.Terminal.Act
import Parley.Proofs.Terminal.Line
import Parley.Proofs.Terminal.Dialogue
import Parley.Proofs.Page.Surface
import Parley.Proofs.Page.Mirror
import Parley.Proofs.Page.Visit
import Parley.Proofs.Page.Reflection
import Parley.Proofs.Host.Typing
import Parley.Proofs.Config.Agreement
import Parley.Proofs.Config.Layers
import Parley.Proofs.Exchange.Wire
import Parley.Proofs.Exchange.History
import Parley.Proofs.Session.Conduct
import Parley.Proofs.Session.Form
import Parley.Proofs.Json.Numeral
import Parley.Proofs.Json.Tree
import Parley.Proofs.Exchange.Reply
import Parley.Proofs.Json.Grammar
import Parley.Proofs.Json.Skip
import Parley.Proofs.Config.Document
import Parley.Proofs.Page.Options
import Parley.Proofs.Exchange.Display
import Parley.Proofs.Url.Authority
import Parley.Proofs.Config.Joining
import Parley.Proofs.Config.Absolute
import Parley.Proofs.Config.EnvValue
import Parley.Proofs.Config.Scalars
import Parley.Proofs.Exchange.Transport
import Parley.Proofs.Exchange.Alike
import Parley.Proofs.Controller.Telling
import Parley.Proofs.Host.Telling
import Parley.Proofs.Page.Mounting
import Parley.Proofs.Page.Beside
import Parley.Proofs.Exchange.Statuses
import Parley.Proofs.Page.Listeners
import Parley.Proofs.Page.Tasks
import Parley.Proofs.Page.Detaching
import Parley.Proofs.Transcript.Scroll
