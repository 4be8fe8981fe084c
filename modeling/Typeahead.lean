import Typeahead.Choice
import Typeahead.Console.Arguments
import Typeahead.Console.Command
import Typeahead.Console.Disk
import Typeahead.Console.Run
import Typeahead.Console.Session
import Typeahead.Decimal.Shortest
import Typeahead.Field
import Typeahead.Json.Error
import Typeahead.Json.Number
import Typeahead.Json.Reader
import Typeahead.Json.Record
import Typeahead.Json.Skip
import Typeahead.Json.Writer
import Typeahead.Label
import Typeahead.Load
import Typeahead.Main
import Typeahead.Markup.Escape
import Typeahead.Markup.Reference
import Typeahead.Markup.ReferenceNames
import Typeahead.Markup.Tag
import Typeahead.Mounted
import Typeahead.Page
import Typeahead.Query
import Typeahead.Select
import Typeahead.Settings
import Typeahead.Source.Client
import Typeahead.Source.Document
import Typeahead.Source.Failure
import Typeahead.Stage
import Typeahead.Suggestion
import Typeahead.Text.Blank
import Typeahead.Text.CodeTable
import Typeahead.Text.Composition
import Typeahead.Text.Fold
import Typeahead.Text.Occurrence
import Typeahead.Text.Pattern
import Typeahead.Text.Quoted
import Typeahead.Text.Utf8
import Typeahead.Time.Span
import Typeahead.Web.Host
import Typeahead.Web.Idna
import Typeahead.Web.Idna.Context
import Typeahead.Web.Idna.Direction
import Typeahead.Web.Idna.Mapping
import Typeahead.Web.Ip
import Typeahead.Web.Percent
import Typeahead.Web.Punycode
import Typeahead.Web.Url
import Typeahead.Proofs.Field.Arrival
import Typeahead.Proofs.Field.Menu
import Typeahead.Proofs.Field.Run
import Typeahead.Proofs.Label
import Typeahead.Proofs.Markup.Tag
import Typeahead.Proofs.Mounted
import Typeahead.Proofs.Select
import Typeahead.Proofs.Stage
import Typeahead.Proofs.Suggestion
import Typeahead.Proofs.Text.Pattern
import Typeahead.Proofs.Field.Stock
import Typeahead.Proofs.Field.Rows
import Typeahead.Proofs.Field.Chosen
import Typeahead.Proofs.Stage.Chronicle
import Typeahead.Proofs.Mounted.Chronicle
import Typeahead.Proofs.Mounted.Announced
import Typeahead.Proofs.Field.Ended
import Typeahead.Proofs.Registry
import Typeahead.Proofs.Mounted.Ended
import Typeahead.Proofs.Select.Edits
import Typeahead.Proofs.Stage.Invariant
import Typeahead.Proofs.Field.Marked
import Typeahead.Proofs.Mounted.Marked
import Typeahead.Proofs.Console.Command
import Typeahead.Proofs.Stage.Notes
import Typeahead.Proofs.Console.Session
import Typeahead.Proofs.Console.Idle
import Typeahead.Proofs.Console.Menu
import Typeahead.Proofs.Text.Utf8
import Typeahead.Proofs.Json.Grammar
import Typeahead.Proofs.Json.Reader
import Typeahead.Proofs.Json.Number
import Typeahead.Proofs.Json.Skip
import Typeahead.Proofs.Json.Record
import Typeahead.Proofs.Json.Members
import Typeahead.Proofs.Json.Writer
import Typeahead.Proofs.Source.Document
import Typeahead.Proofs.Source.Written
import Typeahead.Proofs.Text.Extent
import Typeahead.Proofs.Markup.Form
import Typeahead.Proofs.Label.Occurrences
import Typeahead.Proofs.Markup.Nesting
import Typeahead.Proofs.Markup.Reference
import Typeahead.Proofs.Label.Nesting
import Typeahead.Proofs.Suggestion.Listed
import Typeahead.Proofs.Suggestion.Agreement
import Typeahead.Proofs.Suggestion.Case
import Typeahead.Proofs.Field.Refresh
import Typeahead.Proofs.Field.Commit
import Typeahead.Proofs.Mounted.Along
import Typeahead.Proofs.Field.Blur
import Typeahead.Proofs.Field.Settled
import Typeahead.Proofs.Text.Blank
import Typeahead.Proofs.Field.Toggle
import Typeahead.Proofs.Console.Line
import Typeahead.Proofs.Markup.Escape
import Typeahead.Proofs.Markup.Attribute
import Typeahead.Proofs.Page.Select
import Typeahead.Proofs.Page.Wrapper
import Typeahead.Proofs.Json.Scalar
import Typeahead.Proofs.Settings
import Typeahead.Proofs.Source.Client
import Typeahead.Proofs.Field.Leftover
import Typeahead.Proofs.Settings.Timeout
import Typeahead.Proofs.Json.Place
