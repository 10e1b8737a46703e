import PagePress.Cache.Authority
import PagePress.Cache.Backend
import PagePress.Cache.Memory
import PagePress.Cache.Parameter
import PagePress.Cache.Remote
import PagePress.Clock
import PagePress.Command.Basic
import PagePress.Command.Demo
import PagePress.Command.Run
import PagePress.Decimal.Digits
import PagePress.Decimal.Notation
import PagePress.Decimal.Numeral
import PagePress.Decimal.Places
import PagePress.Decimal.Shortest
import PagePress.Document
import PagePress.DomainName.Basic
import PagePress.DomainName.Letters
import PagePress.Element.Defaults
import PagePress.Element.Kind
import PagePress.Element.Label
import PagePress.Email
import PagePress.Failure
import PagePress.Http.Address
import PagePress.Http.Message
import PagePress.Http.Reading
import PagePress.Http.Route
import PagePress.Http.Server
import PagePress.Json.Basic
import PagePress.Json.Literal
import PagePress.Json.Reader
import PagePress.Json.Shown
import PagePress.Json.Writer
import PagePress.Log.Call
import PagePress.Log.Colored
import PagePress.Log.Context
import PagePress.Log.Extra
import PagePress.Log.Fault
import PagePress.Log.Level
import PagePress.Log.Record
import PagePress.Log.Structured
import PagePress.Log.Template
import PagePress.Log.TrackedEvent
import PagePress.Main
import PagePress.Markup.BodyTag
import PagePress.Markup.Document
import PagePress.Markup.Placeholder
import PagePress.Markup.Slot
import PagePress.Markup.Substitution
import PagePress.Proofs.Cache.History
import PagePress.Proofs.Cache.Memory
import PagePress.Proofs.Command.Elements
import PagePress.Proofs.Command.Run
import PagePress.Proofs.Markup.Placeholder
import PagePress.Proofs.Markup.Slot
import PagePress.Proofs.Markup.Variable
import PagePress.Proofs.Outcome
import PagePress.Proofs.Publishing.Effect
import PagePress.Proofs.Publishing.ElementMap
import PagePress.Proofs.Publishing.Elements
import PagePress.Proofs.Publishing.Integrity
import PagePress.Proofs.Publishing.Refinement
import PagePress.Proofs.Publishing.Rendering
import PagePress.Proofs.Publishing.Sequence
import PagePress.Proofs.Request.Validity
import PagePress.Proofs.Session.Action
import PagePress.Proofs.Session.Elements
import PagePress.Proofs.Session.Freshness
import PagePress.Proofs.Session.History
import PagePress.Proofs.Session.Identifier
import PagePress.Proofs.Session.Integrity
import PagePress.Proofs.Session.Privacy
import PagePress.Proofs.Store.Consistency
import PagePress.Proofs.Store.Elements
import PagePress.Proofs.Store.Lookup
import PagePress.Proofs.Store.Table
import PagePress.Proofs.Store.Writing
import PagePress.Proofs.Text.Search
import PagePress.Publishing.Elements
import PagePress.Publishing.Operation
import PagePress.Publishing.Pages
import PagePress.Publishing.Rendering
import PagePress.Publishing.Submission
import PagePress.Publishing.Templates
import PagePress.Refusal
import PagePress.Request.Catalog
import PagePress.Request.Schema
import PagePress.Request.Value
import PagePress.Request.Violation
import PagePress.Session.Basic
import PagePress.Settings.Basic
import PagePress.Settings.Number
import PagePress.Store.Basic
import PagePress.Store.Listing
import PagePress.Store.Rows
import PagePress.Store.Write
import PagePress.Text.Blank
import PagePress.Text.CaseTable
import PagePress.Text.Composition
import PagePress.Text.Direction
import PagePress.Text.Encoding
import PagePress.Text.Entity
import PagePress.Text.Hex
import PagePress.Text.LetterCase
import PagePress.Text.Loose
import PagePress.Text.Lossy
import PagePress.Text.Mark
import PagePress.Text.Pattern
import PagePress.Text.Percent
import PagePress.Text.Printable
import PagePress.Text.Punycode
import PagePress.Text.Query
import PagePress.Text.Quoted
import PagePress.Text.Ranges
import PagePress.Text.Search
import PagePress.Text.Terminal
import PagePress.Text.Word
import PagePress.Theme
import PagePress.Uuid
import PagePress.View.Contents
import PagePress.View.Page
import PagePress.View.Result
import PagePress.View.Template
import PagePress.Proofs.Markup.Substitution
import PagePress.Proofs.Markup.BodyTag
import PagePress.Proofs.Markup.Document
import PagePress.Proofs.Session.Rendering
import PagePress.Proofs.Session.Failure
import PagePress.Proofs.Publishing.Creation
import PagePress.Proofs.Session.Creation
import PagePress.Proofs.Publishing.Race
import PagePress.Proofs.Session.Visibility
import PagePress.Proofs.Json.RoundTrip
import PagePress.Proofs.Log.Structured
import PagePress.Proofs.Cache.Retention
import PagePress.Proofs.Log.Context
import PagePress.Proofs.Session.Completion
import PagePress.Proofs.Markup.Removal
import PagePress.Proofs.Json.Grammar
import PagePress.Proofs.Text.Loose
import PagePress.Proofs.Theme
import PagePress.Proofs.Store.Constraint
import PagePress.Proofs.Session.Conflict
import PagePress.Proofs.Request.Change
import PagePress.Proofs.Publishing.Change
import PagePress.Proofs.Session.Change
import PagePress.Proofs.Markup.Attribute
import PagePress.Proofs.Markup.Refilling
import PagePress.Proofs.Session.Determinacy
import PagePress.Proofs.Text.Pattern
import PagePress.Proofs.Store.Listing
import PagePress.Proofs.Publishing.Date
import PagePress.Proofs.Session.Listing
import PagePress.Proofs.Publishing.ContentRace
import PagePress.Proofs.Element.Length
import PagePress.Proofs.Session.Fitting
import PagePress.Proofs.Uuid
import PagePress.Proofs.Command.Demonstration
import PagePress.Proofs.Session.Demonstration
import PagePress.Proofs.Element.Words
import PagePress.Proofs.Text.Entity
import PagePress.Proofs.Markup.Shell
import PagePress.Proofs.Cache.Remote
